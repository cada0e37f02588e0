import SqlOutline.Command.Basic
import SqlOutline.Config.Load

/-!
# Command lines

* `CommandLine.Flag`, `CommandLine.Signature` : the flags that exist, and what each command takes;
* `CommandLine.scan` : sorts the arguments into flags and positional arguments;
* `CommandLine.parse` : the invocation that the arguments ask for;
* `CommandLine.execute` : the whole program, from the arguments to the exit code.
-/

namespace SqlOutline.CommandLine

/-- What a flag takes. -/
inductive FlagKind where
  | switch | text | number
deriving DecidableEq, Repr

/-- A flag. -/
structure Flag where
  /-- The long name. -/
  name : String
  /-- The letter of the short form. -/
  letter : Option Char
  /-- What the flag takes. -/
  kind : FlagKind
deriving DecidableEq, Repr

/-- What a command takes. -/
structure Signature where
  /-- The name of the command. -/
  name : String
  /-- The number of positional arguments that are needed. -/
  required : Nat
  /-- The number of positional arguments that are allowed. -/
  allowed : Nat
  /-- The flags of the command. -/
  flags : List Flag

/-- The flags that every command has. -/
def commonFlags : List Flag :=
  [⟨"help", some 'h', .switch⟩, ⟨"config", none, .text⟩, ⟨"verbose", some 'v', .switch⟩,
    ⟨"quiet", some 'q', .switch⟩, ⟨"no-color", none, .switch⟩]

/-- The flag that picks a SQL block of a Markdown file. -/
def blockFlag : Flag := ⟨"block", none, .number⟩

/-- The flags that tell how trees are written. -/
def targetFlags : List Flag := [⟨"output", some 'o', .text⟩, ⟨"pretty", some 'p', .switch⟩]

/-- The flag that asks for normalization. -/
def normalizeFlag : Flag := ⟨"normalize", some 'n', .switch⟩

/-- The commands. -/
def signatures : List Signature :=
  [⟨"tree", 0, 1, [blockFlag, normalizeFlag] ++ targetFlags⟩,
    ⟨"flatten", 0, 1, [blockFlag, normalizeFlag] ++ targetFlags⟩,
    ⟨"format", 0, 1, [blockFlag, ⟨"keyword-case", some 'k', .text⟩, ⟨"indent", none, .number⟩,
      ⟨"no-reindent", none, .switch⟩, ⟨"check", some 'c', .switch⟩]⟩,
    ⟨"stats", 0, 1, [blockFlag, normalizeFlag]⟩,
    ⟨"find", 1, 2, [blockFlag, normalizeFlag, ⟨"count", none, .switch⟩]⟩,
    ⟨"fixtures", 0, 1, [normalizeFlag, ⟨"update", some 'u', .switch⟩]⟩,
    ⟨"version", 0, 0, []⟩]

/-! ### Values -/

/-- The value of a flag. -/
inductive FlagValue where
  | switch (on : Bool)
  | text (s : String)
  | number (n : Int)
deriving DecidableEq, Repr

/-- A truth value written after a switch. -/
def switch? (s : String) : Option Bool :=
  let s := Text.lower s
  if ["true", "1", "yes"].contains s then some true
  else if ["false", "0", "no"].contains s then some false
  else none

/-- The value of a digit in any base up to sixteen. -/
def digit? (c : Char) : Option Nat :=
  let n := c.toNat
  if c.isDigit then some (n - 48)
  else if 'a' ≤ c ∧ c ≤ 'f' then some (n - 87)
  else if 'A' ≤ c ∧ c ≤ 'F' then some (n - 55)
  else none

/-- The digits of a number in the given base; single underscores may stand between them. -/
def digits? (base : Nat) : (value : Nat) → (afterDigit : Bool) → List Char → Option Nat
  | value, afterDigit, [] => if afterDigit then some value else none
  | value, afterDigit, c :: cs =>
    if c = '_' then if afterDigit then digits? base value false cs else none
    else
      match digit? c with
      | some d => if d < base then digits? base (value * base + d) true cs else none
      | none => none

/-- A number without its sign.  A prefix tells the base, and a leading zero means eight. -/
def natural? (cs : List Char) : Option Nat :=
  match cs with
  | '0' :: c :: rest =>
    let body := if rest.head? = some '_' then rest.drop 1 else rest
    if c = 'x' ∨ c = 'X' then digits? 16 0 false body
    else if c = 'o' ∨ c = 'O' then digits? 8 0 false body
    else if c = 'b' ∨ c = 'B' then digits? 2 0 false body
    else digits? 8 0 true (c :: rest)
  | _ => digits? 10 0 false cs

/-- A number of 64 bits. -/
def number? (s : String) : Option Int :=
  let signed :=
    match s.toList with
    | '-' :: cs => (natural? cs).map fun n => -(n : Int)
    | '+' :: cs => (natural? cs).map fun n => (n : Int)
    | cs => (natural? cs).map fun n => (n : Int)
  signed.filter fun n => decide (Int64.minValue.toInt ≤ n) && decide (n ≤ Int64.maxValue.toInt)

/-- The value of a flag that is written as text. -/
def FlagKind.read? (k : FlagKind) (s : String) : Option FlagValue :=
  match k with
  | switch => (switch? s).map .switch
  | text => some (.text s)
  | number => (number? s).map .number

/-! ### Scanning -/

/-- What has been found among the arguments. -/
structure Found where
  /-- The command. -/
  signature : Option Signature := none
  /-- The flags with their values, the last one first. -/
  flags : List (String × FlagValue) := []
  /-- The positional arguments of the command, the last one first. -/
  positionals : List String := []

namespace Found

/-- The flags that may come. -/
def known (f : Found) : List Flag := commonFlags ++ (f.signature.map (·.flags)).getD []

/-- Takes a flag. -/
def add (f : Found) (flag : Flag) (v : FlagValue) : Found := { f with flags := (flag.name, v) :: f.flags }

/-- Takes a positional argument: first comes the name of a command, then its arguments. -/
def addPositional? (f : Found) (arg : String) : Option Found :=
  match f.signature with
  | none => (signatures.find? (·.name == arg)).map fun s => { f with signature := some s }
  | some s =>
    if f.positionals.length < s.allowed then some { f with positionals := arg :: f.positionals } else none

end Found

/-- Whether an argument may be the value of a flag before it. -/
def isValue (arg : String) : Bool := arg == "-" || arg.toList.head? != some '-'

/-- Takes a flag whose value is the next argument. -/
def takeNext? (f : Found) (flag : Flag) : List String → Option (Found × List String)
  | arg :: rest => if isValue arg then (flag.kind.read? arg).map fun v => (f.add flag v, rest) else none
  | [] => none

/-- Takes a long flag, whose value may follow an equals sign. -/
def long? (f : Found) (body : List Char) (rest : List String) : Option (Found × List String) := do
  let name := String.ofList (body.takeWhile (· != '='))
  let flag ← f.known.find? (·.name == name)
  match body.dropWhile (· != '=') with
  | _ :: value => (flag.kind.read? (String.ofList value)).map fun v => (f.add flag v, rest)
  | [] => if flag.kind = .switch then some (f.add flag (.switch true), rest) else takeNext? f flag rest

/-- Takes short flags that stand together.  What follows a flag that needs a value is that value. -/
def short? (f : Found) : List Char → List String → Option (Found × List String)
  | [], rest => some (f, rest)
  | c :: cs, rest => do
    let flag ← f.known.find? (·.letter == some c)
    if flag.kind = .switch then short? (f.add flag (.switch true)) cs rest
    else if cs = [] then takeNext? f flag rest
    else (flag.kind.read? (String.ofList cs)).map fun v => (f.add flag v, rest)

/-- Sorts the arguments.  After `--` all of them are positional. -/
def scan : (fuel : Nat) → Found → List String → Option Found
  | _, f, [] => some f
  | 0, _, _ => none
  | fuel + 1, f, arg :: rest =>
    match arg.toList with
    | ['-'] => (f.addPositional? arg).bind fun f => scan fuel f rest
    | ['-', '-'] => rest.foldlM Found.addPositional? f
    | '-' :: '-' :: body => (long? f body rest).bind fun (f, rest) => scan fuel f rest
    | '-' :: body => (short? f body rest).bind fun (f, rest) => scan fuel f rest
    | _ => (f.addPositional? arg).bind fun f => scan fuel f rest

/-! ### Invocations -/

/-- What the arguments ask for. -/
structure Invocation where
  /-- The command. -/
  command : Command
  /-- The path of the configuration file. -/
  configPath : String := "sqltree.yaml"
  /-- Whether reports are detailed. -/
  verbose : Bool := false
  /-- Whether reports on success are left out. -/
  quiet : Bool := false
  /-- Whether colours are off. -/
  noColor : Bool := false
deriving DecidableEq, Repr

namespace Found

/-- Whether a switch is on. -/
def switchOf (f : Found) (name : String) : Bool :=
  match f.flags.lookup name with
  | some (.switch on) => on
  | _ => false

/-- The text of a flag, or the default. -/
def textOf (f : Found) (name : String) (default : String := "") : String :=
  match f.flags.lookup name with
  | some (.text s) => s
  | _ => default

/-- The number of a flag, zero when it is not given. -/
def numberOf (f : Found) (name : String) : Int :=
  match f.flags.lookup name with
  | some (.number n) => n
  | _ => 0

/-- The positional argument at a place, empty when it is not given. -/
def positional (f : Found) (i : Nat) : String := f.positionals.reverse[i]?.getD ""

/-- The source of a command whose input is the positional argument at a place. -/
def source (f : Found) (i : Nat) : Source := ⟨f.positional i, f.numberOf "block"⟩

/-- The command that has been found. -/
def command? (f : Found) : Option Command := do
  let s ← f.signature
  if f.positionals.length < s.required then none
  let target : Target := ⟨f.textOf "output", f.switchOf "pretty"⟩
  let normalizing := f.switchOf "normalize"
  match s.name with
  | "tree" => some (.tree (f.source 0) target normalizing)
  | "flatten" => some (.flatten (f.source 0) target normalizing)
  | "format" => some (.format (f.source 0)
      ⟨f.textOf "keyword-case", f.numberOf "indent", f.switchOf "no-reindent", f.switchOf "check"⟩)
  | "stats" => some (.stats (f.source 0) normalizing)
  | "find" => some (.find (f.positional 0) (f.source 1) normalizing (f.switchOf "count"))
  | "fixtures" => some (.fixtures (f.positional 0) (f.switchOf "update") normalizing)
  | "version" => some .version
  | _ => none

end Found

/-- What the arguments mean. -/
inductive Request where
  | run (i : Invocation)
  | help
  /-- The arguments make no sense. -/
  | misuse
deriving DecidableEq, Repr

/-- Reads the arguments. -/
def parse (args : List String) : Request :=
  match scan args.length {} args with
  | none => .misuse
  | some f =>
    if f.switchOf "help" then .help
    else
      match f.command? with
      | none => .misuse
      | some command =>
        .run { command, configPath := f.textOf "config" "sqltree.yaml", verbose := f.switchOf "verbose",
               quiet := f.switchOf "quiet", noColor := f.switchOf "no-color" }

/-! ### Running -/

/-- What the program leaves behind. -/
structure Exit where
  /-- The exit code. -/
  code : Nat
  /-- The standard output. -/
  stdout : String := ""
  /-- The standard error output. -/
  stderr : String := ""
  /-- The files. -/
  files : Files

/-- The exit code for arguments that make no sense. -/
def misuseCode : Nat := 80

/-- How the program is used. -/
def usage : String :=
  "Usage: sqltree <command> [flags]\n\nCommands: " ++ ", ".intercalate (signatures.map (·.name)) ++ "\n"

/-- What a command showed on the standard output.  The log is written there as it is, and left out when it is
detailed. -/
def stdoutOf (detailed : Bool) (effects : List Effect) : String :=
  String.join (effects.filterMap fun e =>
    match e with
    | .print text => some text
    | .log text => if detailed then none else some text
    | .warn _ => none)

/-- What a command showed on the standard error output. -/
def stderrOf (effects : List Effect) : String :=
  String.join (effects.filterMap fun e =>
    match e with
    | .warn text => some text
    | _ => none)

/-- Runs an invocation.  Without a word on colours in the configuration there are some on a terminal. -/
def Invocation.execute (i : Invocation) (env : Environment) (files : Files) (stdin : String)
    (terminal : Bool) : Exit :=
  match Config.load env files i.configPath with
  | .error e => { code := 1, stderr := "Failed to load configuration: " ++ e.message ++ "\n", files }
  | .ok config =>
    let color := config.color.getD terminal && !i.noColor
    let ctx : Context := { config, verbose := i.verbose, quiet := i.quiet, color, stdin, files }
    let outcome := i.command.run ctx
    let stdout := stdoutOf (i.verbose || config.logLevel != .info) outcome.effects
    let stderr := stderrOf outcome.effects
    match outcome.error with
    | none => { code := 0, stdout, stderr, files := outcome.files }
    | some e =>
      { code := 1, stdout, stderr := stderr ++ Text.paint color .bad "Error:" ++ " " ++ e.message ++ "\n"
        files := outcome.files }

/-- The whole program. -/
def execute (args : List String) (env : Environment) (files : Files) (stdin : String)
    (terminal : Bool := false) : Exit :=
  match parse args with
  | .run i => i.execute env files stdin terminal
  | .help => { code := 0, stdout := usage, files }
  | .misuse => { code := misuseCode, stderr := usage, files }

end SqlOutline.CommandLine
