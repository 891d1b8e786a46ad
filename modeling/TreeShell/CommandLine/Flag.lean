import TreeShell.CommandLine.Arguments

/-! The flags of the command line, what values they take, and which task takes which. -/

namespace TreeShell

inductive Flag where
  | config
  | logLevel
  | logFormat
  | logOutput
  | logFile
  | source
  | output
  | tree
  | url
  | format
  | render
  | contentTrust
  | watch
  | help
deriving DecidableEq, Repr

inductive FlagValue where
  /-- None; the flag is there or not. -/
  | switch
  | text
  /-- A text that is not empty. -/
  | path
  | oneOf (names : List String)
deriving DecidableEq, Repr

inductive Verb where
  | build
  | check
  | exec
  | shell
  | config
deriving DecidableEq, Repr

namespace Flag

def name : Flag → String
  | .config => "config"
  | .logLevel => "log-level"
  | .logFormat => "log-format"
  | .logOutput => "log-output"
  | .logFile => "log-file"
  | .source => "source"
  | .output => "output"
  | .tree => "tree"
  | .url => "url"
  | .format => "format"
  | .render => "render"
  | .contentTrust => "content-trust"
  | .watch => "watch"
  | .help => "help"

def value : Flag → FlagValue
  | .config | .logFile | .source | .output | .tree => .path
  | .logLevel | .logFormat | .logOutput | .url | .format => .text
  | .render => .oneOf (RenderMode.all.map RenderMode.name)
  | .contentTrust => .oneOf (ContentTrust.all.map ContentTrust.name)
  | .watch | .help => .switch

def everywhere : List Flag :=
  [.config, .logLevel, .logFormat, .logOutput, .logFile, .help]

end Flag

def FlagValue.accepts : FlagValue → String → Bool
  | .switch, _ | .text, _ => true
  | .path, given => given != ""
  | .oneOf names, given => names.contains given

namespace Verb

def name : Verb → String
  | .build => "build"
  | .check => "check"
  | .exec => "exec"
  | .shell => "shell"
  | .config => "config"

def all : List Verb := [.build, .check, .exec, .shell, .config]

def ofName? (name : String) : Option Verb :=
  all.find? (·.name == name)

def flags : Verb → List Flag
  | .build => [.source, .output] ++ Flag.everywhere
  | .check => [.tree, .format] ++ Flag.everywhere
  | .exec => [.tree, .url, .source, .render, .contentTrust] ++ Flag.everywhere
  | .shell => [.tree, .url, .source, .watch, .render, .contentTrust] ++ Flag.everywhere
  | .config => Flag.everywhere

end Verb
end TreeShell
