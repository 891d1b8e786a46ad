import TreeShell.CommandLine.Flag

/-! Reading a command line. A flag's value is judged when the next flag or line is, not
before, so of several faults the one that is met first is named. -/

namespace TreeShell

/-- The arguments before a verb, or those after it, as far as they have been read. -/
structure Reading where
  found : List (Flag × String)
  /-- The flag named last, with its value if that has been met; it is not judged yet. -/
  pending : Option (Flag × Option String)
  lines : List String
  /-- Whether two hyphens have ended the flags. -/
  flagsEnded : Bool
deriving DecidableEq, Repr

namespace Reading

def start : Reading := ⟨[], none, [], false⟩

/-- Whether the next argument is a flag's value, if it is not a flag itself. -/
def awaitsValue (reading : Reading) : Bool :=
  match reading.pending with
  | some (_, none) => true
  | _ => false

def take (reading : Reading) (flag : Flag) (value : String) : Except UsageError Reading :=
  if (reading.found.lookup flag).isSome then .error .argumentConflict
  else if !flag.value.accepts value then .error .invalidValue
  else .ok { reading with found := reading.found ++ [(flag, value)] }

def settle (reading : Reading) : Except UsageError Reading :=
  match reading.pending with
  | none => .ok reading
  | some (_, none) => .error .invalidValue
  | some (flag, some value) => { reading with pending := none }.take flag value

def readLong (reading : Reading) (flags : List Flag) (name : List Char)
    (attached : Option String) : Except UsageError Reading :=
  match flags.find? (·.name.toList == name) with
  | none => .error .unknownArgument
  | some flag =>
    match flag.value, attached with
    | .switch, some _ => .error .tooManyValues
    | .switch, none => do
      let reading ← reading.settle
      if flag == .help then .error .help else reading.take flag ""
    | _, some value => do
      let reading ← reading.settle
      reading.take flag value
    | _, none => do
      let reading ← reading.settle
      .ok { reading with pending := some (flag, none) }

def readShort (reading : Reading) (letter : Char) : Except UsageError Reading :=
  if letter == 'h' then reading.settle.bind fun _ => .error .help else .error .unknownArgument

def attachment (text : List Char) : Option String :=
  match text.dropWhile (· != '=') with
  | [] => none
  | _ :: value => some (String.ofList value)

def readFlag (reading : Reading) (flags : List Flag) (argument : String) :
    Except UsageError (Option Reading) :=
  if reading.flagsEnded then .ok none
  else match argument.toList with
    | ['-', '-'] => .ok (some { reading with flagsEnded := true })
    | '-' :: '-' :: rest =>
      (reading.readLong flags (rest.takeWhile (· != '=')) (attachment rest)).map some
    | '-' :: letter :: _ => (reading.readShort letter).map some
    | _ =>
      match reading.pending with
      | some (flag, none) => .ok (some { reading with pending := some (flag, some argument) })
      | _ => .ok none

def readAfter (verb : Verb) (reading : Reading) (argument : String) :
    Except UsageError Reading := do
  match ← reading.readFlag verb.flags argument with
  | some reading => .ok reading
  | none =>
    if verb == .exec then
      let reading ← reading.settle
      .ok { reading with lines := reading.lines ++ [argument] }
    else .error .unknownArgument

def readTopics : List String → UsageError
  | [] => .help
  | [topic] =>
    if topic == "help" || (Verb.ofName? topic).isSome then .help else .invalidSubcommand
  | _ => .invalidSubcommand

def misplaced (reading : Reading) (argument : String) : UsageError :=
  if reading.flagsEnded && (argument == "help" || (Verb.ofName? argument).isSome) then
    .unknownArgument
  else .invalidSubcommand

def readBefore (reading : Reading) :
    List String → Except UsageError (Reading × Option (Verb × List String))
  | [] => .ok (reading, none)
  | argument :: rest =>
    let isVerb := !reading.flagsEnded && !reading.awaitsValue
    if isVerb && argument == "help" then .error (readTopics rest)
    else match (Verb.ofName? argument).filter fun _ => isVerb with
      | some verb => .ok (reading, some (verb, rest))
      | none =>
        match reading.readFlag Flag.everywhere argument with
        | .error error => .error error
        | .ok (some reading) => readBefore reading rest
        | .ok none => .error (reading.misplaced argument)

def value? (reading : Reading) (flag : Flag) : Option String :=
  reading.found.lookup flag

def origin (reading : Reading) : Origin :=
  ⟨reading.value? .tree, reading.value? .url, reading.value? .source⟩

def look (reading : Reading) : Look :=
  ⟨(reading.value? .render).bind RenderMode.ofName?,
    (reading.value? .contentTrust).bind ContentTrust.ofName?⟩

def standardFormat : String := "text"

/-- The task of a verb. Flags that exclude each other are a fault before missing ones. -/
def task (reading : Reading) : Verb → Except UsageError Task
  | .build =>
    match reading.value? .source, reading.value? .output with
    | some source, some output => .ok (.build source output)
    | _, _ => .error .missingRequiredArgument
  | .check =>
    match reading.value? .tree with
    | some tree => .ok (.check tree ((reading.value? .format).getD standardFormat))
    | none => .error .missingRequiredArgument
  | .exec =>
    if !reading.origin.isSingle then .error .argumentConflict
    else if reading.lines.isEmpty then .error .missingRequiredArgument
    else .ok (.exec reading.origin reading.look reading.lines)
  | .shell =>
    if !reading.origin.isSingle then .error .argumentConflict
    else .ok (.shell reading.origin (reading.value? .watch).isSome reading.look)
  | .config => .ok .config

end Reading

namespace Invocation

/-- What a command line asks for. Flags after the verb go before those in front of it. -/
def ofArguments (arguments : List String) : Except UsageError Invocation := do
  let (before, after) ← Reading.start.readBefore arguments
  match after with
  | none =>
    let before ← before.settle
    .error (if before.found.isEmpty then .helpForNothing else .missingSubcommand)
  | some (verb, rest) =>
    let reading ← rest.foldlM (Reading.readAfter verb) Reading.start
    let reading ← reading.settle
    let task ← reading.task verb
    let before ← before.settle
    let value? flag := (reading.value? flag).or (before.value? flag)
    .ok { task, config := value? .config, logLevel := value? .logLevel
          logFormat := value? .logFormat, logOutput := value? .logOutput
          logFile := value? .logFile }

end Invocation
end TreeShell
