import FieldSurvey.Decimal.Read

/-!
Reading the words of a command line. Options begin with two dashes and may be shortened as long as
only one of them fits; a value follows as the next word or after an equals sign. After a word of two
dashes alone nothing is an option any more. Two dashes in place of a value or of a later word count
as given and yet stand for nothing. Words are taken from left to right, and the first one that ends
the reading decides how it ends.
-/

namespace FieldSurvey

/-- An option: its name with the dashes, and the values it takes. A switch takes none. -/
structure OptionRule where
  name : String
  takes : Option (String → Bool)

/-- What a command line gives: options in order, each with its value, and the other words. Two
dashes in place of a value or word are kept as nothing. -/
structure CommandLine where
  options : List (String × Option String)
  words : List (Option String)

/-- Why reading a command line ends early. -/
inductive Stop where
  | help
  | misuse
  deriving DecidableEq, Repr

def Stop.code : Stop → Nat
  | help => 0
  | misuse => 2

/-- What a word may stand for. -/
inductive Word where
  | plain (text : String)
  | option (rule : OptionRule) (attached : Option String)
  | helpFlags (rest : List Char)
  | unknownOption
  | separator

namespace CommandLine

def helpRule : OptionRule := ⟨"--help", none⟩

def isDigit (character : Char) : Bool := (digitValue? character).isSome

/-- Whether a word looks like a negative number: a dash, digits, and digits after a point. A line
break at the end does not count. -/
def isNegativeNumber (word : List Char) : Bool :=
  let word := if word.getLast? = some '\n' then word.dropLast else word
  match word with
  | '-' :: body =>
      match body.dropWhile isDigit with
      | [] => !body.isEmpty
      | '.' :: fraction => !fraction.isEmpty && fraction.all isDigit
      | _ => false
  | _ => false

def cutAtEquals (word : List Char) : List Char × Option String :=
  match word.dropWhile (· != '=') with
  | [] => (word, none)
  | _ :: value => (word.takeWhile (· != '='), some (String.ofList value))

/-- What a word that is no option stands for: numbers and words with blanks are plain. -/
def classifyUnknown (word : String) : Word :=
  if isNegativeNumber word.toList || word.toList.contains ' ' then .plain word else .unknownOption

def classifyLong (rules : List OptionRule) (word : String) : Except Stop Word :=
  let (start, attached) := cutAtEquals word.toList
  match rules.find? fun rule => rule.name.toList == start with
  | some rule => .ok (.option rule attached)
  | none =>
      match rules.filter fun rule => start.isPrefixOf rule.name.toList with
      | [] => .ok (classifyUnknown word)
      | [rule] => .ok (.option rule attached)
      | _ => .error .misuse

def classify (rules : List OptionRule) (word : String) : Except Stop Word :=
  match word.toList with
  | ['-', '-'] => .ok .separator
  | '-' :: '-' :: _ => classifyLong rules word
  | '-' :: 'h' :: rest => .ok (.helpFlags rest)
  | '-' :: _ :: _ => .ok (classifyUnknown word)
  | _ => .ok (.plain word)

/-- What the words stand for; an option that could be meant in two ways is a misuse. -/
def classifyAll (rules : List OptionRule) : List String → Except Stop (List Word)
  | [] => .ok []
  | word :: rest => do
      match ← classify rules word with
      | .separator => return .separator :: rest.map .plain
      | first => return first :: (← classifyAll rules rest)

/-- How far the reading has come. Whether something was left over is only held against the caller at
the end, and so is a separator with no plain word next to it. -/
structure Progress where
  options : List (String × Option String)
  words : List (Option String)
  afterWord : Bool
  leftOver : Bool

/-- What a value or word stands for: two dashes are nothing. -/
def content? (text : String) : Option String := if text == "--" then none else some text

def takePlain (wanted : Nat) (text : Option String) (progress : Progress) : Progress :=
  if progress.words.length < wanted then
    { progress with words := progress.words ++ [text], afterWord := true }
  else { progress with leftOver := true, afterWord := false }

def takeOption (rule : OptionRule) (value : Option String) (progress : Progress) :
    Except Stop Progress :=
  if rule.name == helpRule.name then .error .help
  else
    match rule.takes with
    | none =>
        .ok { progress with
          options := progress.options ++ [(rule.name, none)], afterWord := false }
    | some accepts =>
        if value.all accepts then
          .ok { progress with
            options := progress.options ++ [(rule.name, value)], afterWord := false }
        else .error .misuse

/-- What becomes of a dash and an h with other characters after it: it asks for help as long as all
of them repeat the h. One equals sign before them does not count, as long as something follows it.
-/
def stopOfHelpFlags : List Char → Stop
  | [] => .help
  | ['='] => .misuse
  | '=' :: flags => if flags.all (· == 'h') then .help else .misuse
  | flags => if flags.all (· == 'h') then .help else .misuse

def take (wanted : Nat) : Progress → List Word → Except Stop Progress
  | progress, [] => .ok progress
  | progress, .plain text :: rest => take wanted (takePlain wanted (content? text) progress) rest
  | progress, .unknownOption :: rest =>
      take wanted { progress with leftOver := true, afterWord := false } rest
  | _, .helpFlags flags :: _ => .error (stopOfHelpFlags flags)
  | progress, [.separator] =>
      .ok { progress with leftOver := progress.leftOver || !progress.afterWord }
  | progress, .separator :: .plain text :: rest =>
      let word := if progress.afterWord then content? text else some text
      take wanted (takePlain wanted word progress) rest
  | progress, .separator :: rest => take wanted progress rest
  | progress, .option rule (some value) :: rest =>
      match rule.takes with
      | none => .error .misuse
      | some _ => do
          let next ← takeOption rule (content? value) progress
          take wanted next rest
  | progress, .option rule none :: rest =>
      match rule.takes with
      | none => do
          let next ← takeOption rule none progress
          take wanted next rest
      | some _ =>
          match rest with
          | .plain value :: later => do
              let next ← takeOption rule (some value) progress
              take wanted next later
          | _ => .error .misuse

def read (rules : List OptionRule) (wanted : Nat) (words : List String) :
    Except Stop CommandLine := do
  let words ← classifyAll (helpRule :: rules) words
  let progress ← take wanted ⟨[], [], false, false⟩ words
  if progress.leftOver || progress.words.length < wanted then throw .misuse
  return ⟨progress.options, progress.words⟩

def valuesOf (name : String) (line : CommandLine) : List (Option String) :=
  (line.options.filter fun entry => entry.1 == name).map Prod.snd

def valueOf? (name : String) (line : CommandLine) : Option String :=
  (line.valuesOf name).getLast?.join

def gives (name : String) (line : CommandLine) : Bool := !(line.valuesOf name).isEmpty

end CommandLine

end FieldSurvey
