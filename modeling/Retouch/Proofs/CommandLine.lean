import Retouch.Command.Request

/-!
# Every request has a command line

Options can be written as `--name=value` and the file after `--`, so what some command line asks for
can be written down from the request alone. Any flag of a request can then be left out.
-/

namespace Retouch.Command

section

variable {ε α β : Type}

theorem bind_eq_ok_iff {x : Except ε α} {f : α → Except ε β} {b : β} :
    x >>= f = .ok b ↔ ∃ a, x = .ok a ∧ f a = .ok b := by
  cases x <;> simp [bind, Except.bind]

theorem bind_eq_error_iff {x : Except ε α} {f : α → Except ε β} {error : ε} :
    x >>= f = .error error ↔ x = .error error ∨ ∃ a, x = .ok a ∧ f a = .error error := by
  cases x <;> simp [bind, Except.bind]

end

def Flag.word : Flag → String
  | version => "version"
  | help => "help"
  | diff => "diff"
  | write => "write"
  | noValidate => "no-validate"
  | after => "after"

def ValueOption.word : ValueOption → String
  | config => "config"
  | source => "from"
  | target => "to"
  | item => "item"
  | name => "name"
  | text => "text"

def Verb.word : Verb → String
  | rename => "rename"
  | annotate => "annotate"

/-- An argument in one piece. -/
def written : Argument Flag ValueOption → String
  | .flag f => "--" ++ f.word
  | .option o value => "--" ++ o.word ++ "=" ++ value
  | .word word => word

theorem shapeOf_flag (f : Flag) : shapeOf (written (.flag f)) = .long f.word none := by
  cases f <;> rfl

theorem shapeOf_option (o : ValueOption) (value : String) :
    shapeOf (written (.option o value)) = .long o.word (some value) := by
  have hlist : (written (.option o value)).toList =
      '-' :: '-' :: (o.word.toList ++ '=' :: value.toList) := by
    simp [written]
  rw [shapeOf, hlist]
  cases o <;> simp [ValueOption.word]

/-- The verb has the flag or the option. -/
def Verb.Knows (verb : Verb) : Argument Flag ValueOption → Prop
  | .flag f => (verbGrammar verb).long f.word = some (.flag f)
  | .option o _ => (verbGrammar verb).long o.word = some (.option o)
  | .word _ => False

theorem readArguments_written {verb : Verb} {arguments : List (Argument Flag ValueOption)}
    (h : ∀ argument ∈ arguments, verb.Knows argument) (file : String) :
    readArguments (verbGrammar verb) false (arguments.map written ++ ["--", file]) =
      ⟨arguments ++ [.word file], some []⟩ := by
  induction arguments with
  | nil => rfl
  | cons argument arguments ih =>
    obtain ⟨hknown, hrest⟩ := List.forall_mem_cons.1 h
    rw [List.map_cons, List.cons_append]
    cases argument with
    | flag f =>
      rw [readArguments, shapeOf_flag]
      dsimp only
      rw [show (verbGrammar verb).long f.word = some (.flag f) from hknown, ih hrest]
      rfl
    | option o value =>
      rw [readArguments, shapeOf_option]
      dsimp only
      rw [show (verbGrammar verb).long o.word = some (.option o) from hknown, ih hrest]
      rfl
    | word word => exact hknown.elim

def Action.verb : Action → Verb
  | rename .. => .rename
  | annotate .. => .annotate

def flagIf (b : Bool) (f : Flag) : List (Argument Flag ValueOption) :=
  if b then [.flag f] else []

def Action.options : Action → List (Argument Flag ValueOption)
  | rename old new => [.option .source old, .option .target new]
  | annotate item name text placement =>
    [.option .item item, .option .name name, .option .text text] ++
      flagIf (placement == .after) .after

def settingsOption (settings : Option String) : List (Argument Flag ValueOption) :=
  (settings.map (Argument.option .config)).toList

def Request.options (r : Request) : List (Argument Flag ValueOption) :=
  settingsOption r.settings ++ r.action.options ++ flagIf r.output.diff .diff ++
    flagIf r.output.write .write ++ flagIf (!r.output.validate) .noValidate

/-- A command line for a request. -/
def Request.arguments (r : Request) : List String :=
  r.action.verb.word :: (r.options.map written ++ ["--", r.file])

/-- What holds of a request that comes from a command line: paths are not empty, and annotations
stand before or after an item. -/
structure Request.Sayable (r : Request) : Prop where
  file : r.file ≠ ""
  settings : r.settings ≠ some ""
  placement : ∀ item name text, r.action ≠ .annotate item name text .replace

theorem eq_of_mem_flagIf {b : Bool} {f : Flag} {argument : Argument Flag ValueOption}
    (h : argument ∈ flagIf b f) : argument = .flag f := by
  cases b with
  | true => exact List.mem_singleton.1 h
  | false => cases h

theorem Action.knows_options (action : Action) :
    ∀ argument ∈ action.options, action.verb.Knows argument := by
  intro argument hmem
  cases action with
  | rename old new =>
    simp only [options, List.mem_cons, List.not_mem_nil, or_false] at hmem
    rcases hmem with rfl | rfl <;> rfl
  | annotate item name text placement =>
    simp only [options, List.mem_append, List.mem_cons, List.not_mem_nil, or_false] at hmem
    rcases hmem with (rfl | rfl | rfl) | hafter
    · rfl
    · rfl
    · rfl
    · obtain rfl := eq_of_mem_flagIf hafter
      rfl

theorem Request.knows_options (r : Request) :
    ∀ argument ∈ r.options, r.action.verb.Knows argument := by
  intro argument hmem
  simp only [options, List.mem_append] at hmem
  rcases hmem with (((hsettings | haction) | hdiff) | hwrite) | hvalidate
  · obtain ⟨path, -, rfl⟩ := Option.map_eq_some_iff.1 (Option.mem_toList.1 hsettings)
    cases r.action <;> rfl
  · exact r.action.knows_options argument haction
  · obtain rfl := eq_of_mem_flagIf hdiff
    cases r.action <;> rfl
  · obtain rfl := eq_of_mem_flagIf hwrite
    cases r.action <;> rfl
  · obtain rfl := eq_of_mem_flagIf hvalidate
    cases r.action <;> rfl

theorem accept_flagIf (b : Bool) {f : Flag} {a : Accepted}
    (arguments : List (Argument Flag ValueOption)) (hversion : f ≠ .version) (hhelp : f ≠ .help)
    (hnew : a.has f = false) :
    accept (flagIf b f ++ arguments) a =
      accept arguments { a with flags := (if b then [f] else []) ++ a.flags } := by
  cases b with
  | false => rfl
  | true =>
    change accept (.flag f :: arguments) a = _
    rw [accept, if_neg hversion, if_neg hhelp, hnew]
    rfl

theorem accept_option {o : ValueOption} {value : String} {a : Accepted}
    (arguments : List (Argument Flag ValueOption)) (hnew : a.value? o = none)
    (hvalue : o = .config → value ≠ "") :
    accept (.option o value :: arguments) a =
      accept arguments { a with values := (o, value) :: a.values } := by
  have hgood : ((a.value? o).isSome || o == .config && value.isEmpty) = false := by
    simpa [hnew] using hvalue
  rw [accept, hgood]
  rfl

def settingsValue (settings : Option String) : List (ValueOption × String) :=
  (settings.map fun path => (.config, path)).toList

theorem accept_settingsOption {settings : Option String} {a : Accepted}
    (arguments : List (Argument Flag ValueOption)) (hnew : a.value? .config = none)
    (hsettings : settings ≠ some "") :
    accept (settingsOption settings ++ arguments) a =
      accept arguments { a with values := settingsValue settings ++ a.values } := by
  cases settings with
  | none => rfl
  | some path => exact accept_option arguments hnew fun _ hpath => hsettings (congrArg some hpath)

theorem accept_word {word : String} {a : Accepted} (hnew : a.file = none) (hword : word ≠ "") :
    accept [.word word] a = .ok { a with file := some word } := by
  have hgood : (a.file.isSome || word.isEmpty) = false := by simpa [hnew] using hword
  rw [accept, hgood]
  rfl

def Action.values : Action → List (ValueOption × String)
  | rename old new => [(.target, new), (.source, old)]
  | annotate item name text _ => [(.text, text), (.name, name), (.item, item)]

def Action.flags : Action → List Flag
  | rename .. => []
  | annotate _ _ _ placement => if placement == .after then [.after] else []

/-- The options of a request as they are taken up, the last ones first. -/
def Request.accepted (r : Request) : Accepted where
  flags := (if !r.output.validate then [.noValidate] else []) ++
    ((if r.output.write then [.write] else []) ++
      ((if r.output.diff then [.diff] else []) ++ r.action.flags))
  values := r.action.values ++ settingsValue r.settings
  file := some r.file

theorem Action.accept_options (action : Action) (arguments : List (Argument Flag ValueOption))
    (settings : Option String) :
    accept (action.options ++ arguments) { values := settingsValue settings } =
      accept arguments
        { flags := action.flags, values := action.values ++ settingsValue settings } := by
  cases action with
  | rename old new =>
    exact (accept_option _ (by cases settings <;> rfl) (by nofun)).trans
      (accept_option _ (by cases settings <;> rfl) (by nofun))
  | annotate item name text placement =>
    rw [options, List.append_assoc]
    refine (accept_option _ (by cases settings <;> rfl) (by nofun)).trans ?_
    refine (accept_option _ (by cases settings <;> rfl) (by nofun)).trans ?_
    refine (accept_option _ (by cases settings <;> rfl) (by nofun)).trans ?_
    refine (accept_flagIf _ _ (by nofun) (by nofun) rfl).trans ?_
    rw [List.append_nil]
    rfl

theorem Action.eq_after_of_mem_flags {action : Action} {f : Flag} (h : f ∈ action.flags) :
    f = .after := by
  cases action with
  | rename old new => cases h
  | annotate item name text placement =>
    rw [flags] at h
    split at h
    · exact List.mem_singleton.1 h
    · cases h

theorem Accepted.has_eq_false {a : Accepted} {f : Flag} (h : f ∉ a.flags) : a.has f = false := by
  simpa [has] using h

theorem Request.Sayable.accept_options {r : Request} (h : r.Sayable) :
    accept (r.options ++ [.word r.file]) {} = .ok r.accepted := by
  obtain ⟨settings, file, action, diff, write, validate⟩ := r
  have hother : ∀ f : Flag, f ≠ .after → f ∉ action.flags :=
    fun f hf hmem => hf (Action.eq_after_of_mem_flags hmem)
  simp only [options, List.append_assoc]
  refine (accept_settingsOption _ rfl h.settings).trans ?_
  rw [List.append_nil]
  refine (action.accept_options _ settings).trans ?_
  refine (accept_flagIf diff _ (by nofun) (by nofun) (Accepted.has_eq_false ?_)).trans ?_
  · exact hother .diff nofun
  refine (accept_flagIf write _ (by nofun) (by nofun) (Accepted.has_eq_false ?_)).trans ?_
  · cases diff <;> simp [hother .write nofun]
  refine (accept_flagIf (!validate) _ (by nofun) (by nofun) (Accepted.has_eq_false ?_)).trans ?_
  · cases diff <;> cases write <;> simp [hother .noValidate nofun]
  exact accept_word rfl h.file

theorem Request.Sayable.requestOf?_accepted {r : Request} (h : r.Sayable) :
    requestOf? r.action.verb {} r.accepted = some r := by
  obtain ⟨settings, file, action, diff, write, validate⟩ := r
  cases action with
  | rename old new => cases settings <;> cases diff <;> cases write <;> cases validate <;> rfl
  | annotate item name text placement =>
    cases placement with
    | replace => exact absurd rfl (h.placement item name text)
    | before => cases settings <;> cases diff <;> cases write <;> cases validate <;> rfl
    | after => cases settings <;> cases diff <;> cases write <;> cases validate <;> rfl

theorem Request.Sayable.readVerb_eq_ok {r : Request} (h : r.Sayable) :
    readVerb r.action.verb {} (r.options.map written ++ ["--", r.file]) = .ok r := by
  have hread := readArguments_written r.knows_options r.file
  simp only [readVerb, acceptReading, hread, h.accept_options, bind, Except.bind, pure,
    Except.pure, h.requestOf?_accepted]

/-- The command line written for a request asks for it. -/
theorem Request.Sayable.ofArguments_arguments {r : Request} (h : r.Sayable) :
    Invocation.ofArguments r.arguments = .request r := by
  have hverb := h.readVerb_eq_ok
  have hread : readInvocation r.arguments = .ok r := by
    rw [arguments]
    cases haction : r.action.verb <;> rw [haction] at hverb
    · exact hverb
    · exact hverb
  rw [Invocation.ofArguments, hread]

/-- Paths that have been accepted are not empty. -/
structure Accepted.HasPaths (a : Accepted) : Prop where
  file : a.file ≠ some ""
  config : a.value? .config ≠ some ""

theorem accept_hasPaths {arguments : List (Argument Flag ValueOption)} {a b : Accepted}
    (ha : a.HasPaths) (h : accept arguments a = .ok b) : b.HasPaths := by
  fun_induction accept arguments a with
  | case1 a =>
    obtain rfl := Except.ok.inj h
    exact ha
  | case2 => cases h
  | case3 => cases h
  | case4 => cases h
  | case5 f arguments a hversion hhelp hnew ih => exact ih ⟨ha.file, ha.config⟩ h
  | case6 => cases h
  | case7 o value arguments a hgood ih =>
    refine ih ⟨ha.file, ?_⟩ h
    by_cases ho : o = .config
    · subst ho
      intro hempty
      obtain rfl : value = "" := Option.some.inj hempty
      exact hgood (by simp)
    · have hskip : (ValueOption.config == o) = false := beq_false_of_ne (Ne.symm ho)
      simp only [Accepted.value?, List.lookup_cons, hskip]
      exact ha.config
  | case8 => cases h
  | case9 word arguments a hgood ih =>
    refine ih ⟨?_, ha.config⟩ h
    intro hempty
    obtain rfl : word = "" := Option.some.inj hempty
    exact hgood (by simp)

theorem acceptReading_hasPaths {reading : Reading Flag ValueOption} {a : Accepted}
    {rest : List String} (h : acceptReading reading = .ok (a, rest)) : a.HasPaths := by
  obtain ⟨accepted, haccept, hrest⟩ := bind_eq_ok_iff.1 h
  cases hleft : reading.rest with
  | none =>
    rw [hleft] at hrest
    cases hrest
  | some left =>
    rw [hleft] at hrest
    obtain ⟨rfl, -⟩ := Prod.mk.inj (Except.ok.inj hrest)
    exact accept_hasPaths ⟨by simp, by simp [Accepted.value?]⟩ haccept

theorem placement_of_action? {verb : Verb} {a : Accepted} {item name text : String} :
    action? verb a ≠ some (.annotate item name text .replace) := by
  intro h
  cases verb with
  | rename =>
    simp only [action?, bind, Option.bind_eq_some_iff, pure, Option.some.injEq] at h
    obtain ⟨_, _, _, _, hrename⟩ := h
    cases hrename
  | annotate =>
    simp only [action?, bind, Option.bind_eq_some_iff, pure, Option.some.injEq,
      Action.annotate.injEq] at h
    obtain ⟨_, _, _, _, _, _, -, -, -, hplacement⟩ := h
    split at hplacement <;> cases hplacement

theorem sayable_of_requestOf? {verb : Verb} {before after : Accepted} {r : Request}
    (hbefore : before.HasPaths) (hafter : after.HasPaths)
    (h : requestOf? verb before after = some r) : r.Sayable := by
  simp only [requestOf?, bind, Option.bind_eq_some_iff, pure, Option.some.injEq] at h
  obtain ⟨file, hfile, action, haction, rfl⟩ := h
  refine ⟨?_, ?_, ?_⟩
  · rintro rfl
    exact hafter.file hfile
  · intro hempty
    rcases Option.or_eq_some_iff.1 hempty with hconfig | ⟨-, hconfig⟩
    · exact hafter.config hconfig
    · exact hbefore.config hconfig
  · rintro item name text rfl
    exact placement_of_action? haction

theorem sayable_of_readVerb {verb : Verb} {before : Accepted} {arguments : List String}
    {r : Request} (hbefore : before.HasPaths) (h : readVerb verb before arguments = .ok r) :
    r.Sayable := by
  obtain ⟨⟨after, rest⟩, hread, hasked⟩ := bind_eq_ok_iff.1 h
  cases hrequest : requestOf? verb before after with
  | none =>
    simp only [hrequest] at hasked
    cases hasked
  | some asked =>
    simp only [hrequest] at hasked
    obtain rfl := Except.ok.inj hasked
    exact sayable_of_requestOf? hbefore (acceptReading_hasPaths hread) hrequest

theorem sayable_of_readInvocation {arguments : List String} {r : Request}
    (h : readInvocation arguments = .ok r) : r.Sayable := by
  obtain ⟨⟨before, rest⟩, hread, hverb⟩ := bind_eq_ok_iff.1 h
  dsimp only at hverb
  split at hverb
  · exact sayable_of_readVerb (acceptReading_hasPaths hread) hverb
  · exact sayable_of_readVerb (acceptReading_hasPaths hread) hverb
  · cases hverb
  · cases hverb

/-! Reading that stops early answers with the version, help or a refusal, never with a request. -/

theorem accept_ne_request (arguments : List (Argument Flag ValueOption)) (a : Accepted)
    (r : Request) : accept arguments a ≠ .error (.request r) := by
  fun_induction accept arguments a with
  | case5 f arguments a hversion hhelp hnew ih => exact ih
  | case7 o value arguments a hgood ih => exact ih
  | case9 word arguments a hgood ih => exact ih
  | _ => nofun

theorem acceptReading_ne_request (reading : Reading Flag ValueOption) (r : Request) :
    acceptReading reading ≠ .error (.request r) := by
  intro h
  rcases bind_eq_error_iff.1 h with haccept | ⟨a, -, hrest⟩
  · exact accept_ne_request _ _ _ haccept
  · split at hrest <;> cases hrest

theorem readVerb_ne_request (verb : Verb) (before : Accepted) (arguments : List String)
    (r : Request) : readVerb verb before arguments ≠ .error (.request r) := by
  intro h
  rcases bind_eq_error_iff.1 h with hread | ⟨⟨after, rest⟩, -, hasked⟩
  · exact acceptReading_ne_request _ _ hread
  · dsimp only at hasked
    split at hasked <;> cases hasked

theorem readInvocation_ne_request (arguments : List String) (r : Request) :
    readInvocation arguments ≠ .error (.request r) := by
  intro h
  rcases bind_eq_error_iff.1 h with hread | ⟨⟨before, rest⟩, -, hverb⟩
  · exact acceptReading_ne_request _ _ hread
  · dsimp only at hverb
    split at hverb
    · exact readVerb_ne_request _ _ _ _ hverb
    · exact readVerb_ne_request _ _ _ _ hverb
    · split at hverb <;> cases hverb
    · cases hverb

theorem ofArguments_eq_request_iff {arguments : List String} {r : Request} :
    Invocation.ofArguments arguments = .request r ↔ readInvocation arguments = .ok r := by
  unfold Invocation.ofArguments
  cases hread : readInvocation arguments with
  | ok asked => simp
  | error invocation =>
    refine ⟨?_, nofun⟩
    rintro rfl
    exact absurd hread (readInvocation_ne_request arguments r)

/-- What some command line asks for has a command line of its own. -/
theorem sayable_of_ofArguments {arguments : List String} {r : Request}
    (h : Invocation.ofArguments arguments = .request r) : r.Sayable :=
  sayable_of_readInvocation (ofArguments_eq_request_iff.1 h)

end Retouch.Command
