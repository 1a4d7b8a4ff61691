/-!
# Reading arguments

Arguments are options with a value, flags, and words. An option is `--name value`, `--name=value`,
`-n value`, `-nvalue` or `-n=value`; flags of one letter can be written together. A value on its
own may not look like an option. After `--` there are only words.
-/

namespace Retouch.Command

inductive Switch (φ ο : Type) where
  | flag (flag : φ)
  | option (option : ο)

/-- The names that are known, `long` with two dashes and `short` with one. -/
structure Grammar (φ ο : Type) where
  long : String → Option (Switch φ ο)
  short : Char → Option (Switch φ ο)

inductive Argument (φ ο : Type) where
  | flag (flag : φ)
  | option (option : ο) (value : String)
  | word (word : String)

variable {φ ο : Type}

inductive Shape where
  | separator
  | long (name : String) (value : Option String)
  | short (letters : List Char)
  | word (word : String)

def shapeOf (argument : String) : Shape :=
  match argument.toList with
  | ['-', '-'] => .separator
  | '-' :: '-' :: body =>
    let name := String.ofList (body.takeWhile (· != '='))
    match body.dropWhile (· != '=') with
    | _ :: value => .long name (some (String.ofList value))
    | [] => .long name none
  | '-' :: c :: letters => .short (c :: letters)
  | _ => .word argument

/-- Whether an argument can be the value of the option before it. A single dash can. -/
def isValue (argument : String) : Bool :=
  match shapeOf argument with
  | .word _ => true
  | _ => false

/-- Arguments in order, up to the point where reading stopped. -/
structure Reading (φ ο : Type) where
  arguments : List (Argument φ ο)
  /-- Nothing if an argument could not be read, else the arguments that are left. -/
  rest : Option (List String)

namespace Reading

def bad : Reading φ ο := ⟨[], none⟩

def cons (argument : Argument φ ο) (r : Reading φ ο) : Reading φ ο :=
  { r with arguments := argument :: r.arguments }

end Reading

/-- The letters of one argument: what they give, and the option that still needs its value. -/
structure Letters (φ ο : Type) where
  arguments : List (Argument φ ο)
  pending : Option ο
  isGood : Bool

def readLetters (g : Grammar φ ο) : List Char → Letters φ ο
  | [] => ⟨[], none, true⟩
  | c :: letters =>
    match g.short c with
    | none => ⟨[], none, false⟩
    | some (.flag flag) =>
      let next := readLetters g letters
      { next with arguments := .flag flag :: next.arguments }
    | some (.option option) =>
      match letters with
      | [] => ⟨[], some option, true⟩
      | '=' :: value => ⟨[.option option (String.ofList value)], none, true⟩
      | value => ⟨[.option option (String.ofList value)], none, true⟩

/-- Reads arguments. With `untilWord` it stops before the first word, which then is the first of
the rest. -/
def readArguments (g : Grammar φ ο) (untilWord : Bool) : List String → Reading φ ο
  | [] => ⟨[], some []⟩
  | argument :: arguments =>
    match shapeOf argument with
    | .separator => if untilWord then .bad else ⟨arguments.map .word, some []⟩
    | .word word =>
      if untilWord then ⟨[], some (argument :: arguments)⟩
      else .cons (.word word) (readArguments g untilWord arguments)
    | .long name value =>
      match g.long name, value with
      | some (.flag flag), none => .cons (.flag flag) (readArguments g untilWord arguments)
      | some (.option option), some value =>
        .cons (.option option value) (readArguments g untilWord arguments)
      | some (.option option), none =>
        match arguments with
        | value :: arguments =>
          if isValue value then
            .cons (.option option value) (readArguments g untilWord arguments)
          else .bad
        | [] => .bad
      | _, _ => .bad
    | .short letters =>
      let read := readLetters g letters
      let next : Reading φ ο :=
        if read.isGood then
          match read.pending with
          | none => readArguments g untilWord arguments
          | some option =>
            match arguments with
            | value :: arguments =>
              if isValue value then
                .cons (.option option value) (readArguments g untilWord arguments)
              else .bad
            | [] => .bad
        else .bad
      { next with arguments := read.arguments ++ next.arguments }

end Retouch.Command
