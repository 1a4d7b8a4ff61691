import Retouch.Proofs.RequestRun

/-!
# Damage does not grow

Damage is counted over the whole tree, inside damaged nodes too. A validated run never leaves a
file with more of it, so no sequence of such runs does, and a file that parses goes on to parse.
-/

namespace Retouch.Parse

mutual

/-- The number of nodes of a tree that do not fit the grammar. -/
def damage : Tree → Nat
  | .node label children => (if label.health = .sound then 0 else 1) + damageOf children

def damageOf : List Tree → Nat
  | [] => 0
  | tree :: trees => damage tree + damageOf trees

end

mutual

theorem length_damagedNodes : ∀ tree : Tree, (damagedNodes tree).length = damage tree
  | .node label children => by
    have hchildren := length_damagedNodesOf children
    rw [damage, damagedNodes, nodes, Tree.subtrees, List.map_cons, List.filter_cons]
    by_cases hsound : label.health = .sound
    · simp [Node.isDamaged, hsound, hchildren]
    · simp [Node.isDamaged, hsound, hchildren, Nat.add_comm]

theorem length_damagedNodesOf : ∀ trees : List Tree,
    (((Tree.subtreesOf trees).map Tree.label).filter Node.isDamaged).length = damageOf trees
  | [] => rfl
  | tree :: trees => by
    have htree := length_damagedNodes tree
    have htrees := length_damagedNodesOf trees
    rw [damagedNodes, nodes] at htree
    rw [damageOf, Tree.subtreesOf, List.map_append, List.filter_append, List.length_append, htree,
      htrees]

end

theorem assess_eq_ok_iff {damaged : List Node} : assess damaged = .ok () ↔ damaged = [] := by
  match damaged with
  | [] => simp [assess]
  | [node] => simp [assess]
  | node :: next :: others => simp [assess]

theorem validate_eq_ok_iff {parse : Text → Tree} {text : Text} :
    validate parse text = .ok () ↔ damage (parse text) = 0 := by
  rw [validate, assess_eq_ok_iff, ← length_damagedNodes, List.length_eq_zero_iff]

/-- What is reported of the damage in a tree: its place if there is one damaged node, else the
number of them. -/
structure Damage.Describes (d : Damage) (tree : Tree) : Prop where
  single : damage tree = 1 →
    ∃ node ∈ nodes tree, node.health ≠ .sound ∧ d = .single node.startByte node.stopByte
  several : damage tree ≠ 1 → d = .several (damage tree)

theorem exists_describes_of_damage {tree : Tree} (h : 0 < damage tree) :
    ∃ d : Damage, assess (damagedNodes tree) = .error d ∧ d.Describes tree := by
  have hlength := length_damagedNodes tree
  match hdamaged : damagedNodes tree with
  | [] =>
    rw [hdamaged] at hlength
    exact absurd hlength h.ne
  | [node] =>
    rw [hdamaged] at hlength
    have hnode : node ∈ damagedNodes tree := hdamaged ▸ List.mem_singleton_self node
    obtain ⟨hmem, hsick⟩ := List.mem_filter.1 hnode
    refine ⟨_, rfl, fun _ => ⟨node, hmem, by simpa [Node.isDamaged] using hsick, rfl⟩, ?_⟩
    exact fun hother => absurd hlength.symm hother
  | node :: next :: others =>
    rw [hdamaged] at hlength
    refine ⟨_, rfl, fun hone => ?_, fun _ => congrArg Damage.several hlength⟩
    rw [hone] at hlength
    simp at hlength

theorem validateReprint_of_le {parse : Text → Tree} {source reprinted : Text}
    (h : damage (parse reprinted) ≤ damage (parse source)) :
    validateReprint parse source reprinted = .ok () := by
  rw [← length_damagedNodes, ← length_damagedNodes] at h
  exact if_pos h

theorem validateReprint_of_lt {parse : Text → Tree} {source reprinted : Text}
    (h : damage (parse source) < damage (parse reprinted)) :
    ∃ d : Damage, validateReprint parse source reprinted = .error d ∧
      d.Describes (parse reprinted) := by
  obtain ⟨d, hassess, hd⟩ := exists_describes_of_damage (Nat.zero_lt_of_lt h)
  rw [← length_damagedNodes, ← length_damagedNodes] at h
  exact ⟨d, (if_neg (Nat.not_le.2 h)).trans hassess, hd⟩

theorem validateReprint_eq_ok_iff {parse : Text → Tree} {source reprinted : Text} :
    validateReprint parse source reprinted = .ok () ↔
      damage (parse reprinted) ≤ damage (parse source) := by
  refine ⟨fun hok => ?_, validateReprint_of_le⟩
  by_contra hworse
  obtain ⟨d, herror, -⟩ := validateReprint_of_lt (Nat.not_le.1 hworse)
  exact nomatch hok.symm.trans herror

end Retouch.Parse

namespace Retouch

/-- The text that names lead to, if they lead to a file with a text. -/
def Directory.textAt? (directory : Directory) (names : List String) : Option Text :=
  (directory.contentAt? names).join.bind decodeUtf8?

namespace Command

open Parse (damage validate)

/-- A command line as it is run, with colours or without. -/
structure CommandLine where
  colours : Bool
  arguments : List String

/-- Runs command lines one after the other. -/
def runAll (parse : Text → Parse.Tree) (directory : Directory) (calls : List CommandLine) :
    Directory :=
  calls.foldl (fun directory call => (run parse call.colours directory call.arguments).2) directory

/-- A command line that is no request, or a request that is validated. -/
def CommandLine.Validates (call : CommandLine) : Prop :=
  ∀ r, Invocation.ofArguments call.arguments = .request r → r.output.validate = true

/-- Every text is still a text and has no more damage than before. -/
def NoWorse (parse : Text → Parse.Tree) (before after : Directory) : Prop :=
  ∀ names text, before.textAt? names = some text →
    ∃ next, after.textAt? names = some next ∧ damage (parse next) ≤ damage (parse text)

variable {parse : Text → Parse.Tree} {directory : Directory} {r : Request} {draft : Draft}

theorem NoWorse.refl (parse : Text → Parse.Tree) (directory : Directory) :
    NoWorse parse directory directory := fun _ text htext => ⟨text, htext, le_rfl⟩

theorem NoWorse.trans {first second third : Directory} (h : NoWorse parse first second)
    (h' : NoWorse parse second third) : NoWorse parse first third := by
  intro names text htext
  obtain ⟨middle, hmiddle, hle⟩ := h names text htext
  obtain ⟨last, hlast, hle'⟩ := h' names middle hmiddle
  exact ⟨last, hlast, hle'.trans hle⟩

theorem noWorse_of_write {written : Directory} {names : List String} {bytes : ByteArray}
    {source reprinted : Text} (hold : directory.contentAt? names = some (some bytes))
    (hsource : decodeUtf8? bytes = some source)
    (hwritten : directory.Changed names (some (some (encodeUtf8 reprinted))) written)
    (hdamage : damage (parse reprinted) ≤ damage (parse source)) :
    NoWorse parse directory written := by
  intro other text htext
  by_cases hother : other = names
  · subst hother
    have hread : directory.textAt? other = some source := by
      rw [Directory.textAt?, hold]
      exact hsource
    obtain rfl := Option.some.inj (hread.symm.trans htext)
    refine ⟨reprinted, ?_, hdamage⟩
    rw [Directory.textAt?, hwritten.same]
    exact decodeUtf8?_encodeUtf8 reprinted
  · refine ⟨text, ?_, le_rfl⟩
    rw [Directory.textAt?, hwritten.of_ne hother]
    exact htext

theorem Request.noWorse_run (colours : Bool) (h : r.output.validate = true) :
    NoWorse parse directory (r.run parse colours directory).2 := by
  cases hprepare : r.prepare parse directory.read with
  | error failure =>
    rw [run_of_prepare_error colours hprepare]
    exact .refl parse directory
  | ok draft =>
    cases hwrite : r.output.write with
    | false =>
      rw [run_of_not_write colours hprepare hwrite]
      exact .refl parse directory
    | true =>
      obtain ⟨names, bytes, hfile, hsource⟩ := fileAt_of_prepare hprepare
      obtain ⟨result, written, hrun, hwritten⟩ := run_of_write colours hprepare hwrite hfile
      have hvalid := (prepare_eq_ok_iff.1 hprepare).2 h
      rw [hrun]
      exact noWorse_of_write (Directory.contentAt?_of_fileAt hfile) hsource hwritten
        (Parse.validateReprint_eq_ok_iff.1 hvalid)

theorem CommandLine.Validates.noWorse_run {call : CommandLine} (h : call.Validates) :
    NoWorse parse directory (run parse call.colours directory call.arguments).2 := by
  cases hasked : Invocation.ofArguments call.arguments with
  | request r =>
    rw [run_of_request hasked]
    exact r.noWorse_run call.colours (h r hasked)
  | version =>
    rw [run, perform, hasked]
    exact .refl parse directory
  | help =>
    rw [run, perform, hasked]
    exact .refl parse directory
  | refused =>
    rw [run, perform, hasked]
    exact .refl parse directory

theorem noWorse_runAll {calls : List CommandLine} (h : ∀ call ∈ calls, call.Validates) :
    NoWorse parse directory (runAll parse directory calls) := by
  induction calls generalizing directory with
  | nil => exact .refl parse directory
  | cons call calls ih =>
    obtain ⟨hcall, hcalls⟩ := List.forall_mem_cons.1 h
    exact hcall.noWorse_run.trans (ih hcalls)

theorem runAll_append (parse : Text → Parse.Tree) (directory : Directory)
    (before after : List CommandLine) :
    runAll parse directory (before ++ after) = runAll parse (runAll parse directory before) after :=
  List.foldl_append

/-- A draft is accepted if it has no more damage than the text it was made from. -/
theorem Request.prepare_of_le {read : ReadFile}
    (h : r.unvalidated.prepare parse read = .ok draft)
    (hdamage : damage (parse draft.reprinted) ≤ damage (parse draft.source)) :
    r.prepare parse read = .ok draft :=
  prepare_eq_ok_iff.2 ⟨prepare_unvalidated_eq_ok_iff.1 h,
    fun _ => Parse.validateReprint_of_le hdamage⟩

theorem Request.prepare_of_lt {read : ReadFile} (hvalidate : r.output.validate = true)
    (h : r.unvalidated.prepare parse read = .ok draft)
    (hdamage : damage (parse draft.source) < damage (parse draft.reprinted)) :
    ∃ d : Parse.Damage, r.prepare parse read = .error (.damaged r.file d) ∧
      d.Describes (parse draft.reprinted) := by
  obtain ⟨d, herror, hd⟩ := Parse.validateReprint_of_lt hdamage
  refine ⟨d, ?_, hd⟩
  rw [prepare_eq_bind, h, hvalidate]
  simp only [bind, Except.bind, if_true, herror, Except.mapError]

/-- Along validated command lines no file gets more damage, and one that has none keeps none. A
draft with more damage than the text it was made from is refused with a report of that damage, and
any other draft is carried out. -/
theorem damage_never_accumulates (parse : Text → Parse.Tree) (directory : Directory)
    (before after : List CommandLine) (h : ∀ call ∈ before ++ after, call.Validates) :
    (∀ names text, (runAll parse directory before).textAt? names = some text →
      ∃ next, (runAll parse directory (before ++ after)).textAt? names = some next ∧
        damage (parse next) ≤ damage (parse text) ∧
          (validate parse text = .ok () → validate parse next = .ok ())) ∧
    ∀ call ∈ before ++ after, ∀ r, Invocation.ofArguments call.arguments = .request r →
      ∀ (here : Directory) (draft : Draft), r.unvalidated.prepare parse here.read = .ok draft →
        if damage (parse draft.reprinted) ≤ damage (parse draft.source) then
          (run parse call.colours here call.arguments).1.exit = 0
        else
          ∃ d : Parse.Damage, d.Describes (parse draft.reprinted) ∧
            run parse call.colours here call.arguments =
              (.failed "" (.damaged r.file d), here) := by
  constructor
  · intro names text htext
    have hafter : ∀ call ∈ after, call.Validates :=
      fun call hcall => h call (List.mem_append_right before hcall)
    obtain ⟨next, hnext, hdamage⟩ := noWorse_runAll hafter names text htext
    rw [← runAll_append] at hnext
    refine ⟨next, hnext, hdamage, fun hvalid => ?_⟩
    rw [Parse.validate_eq_ok_iff] at hvalid ⊢
    exact Nat.le_zero.1 (hvalid ▸ hdamage)
  · intro call hcall r hr here draft hdraft
    rw [run_of_request hr]
    by_cases hdamage : damage (parse draft.reprinted) ≤ damage (parse draft.source)
    · rw [if_pos hdamage]
      exact r.exit_run_of_prepare call.colours (r.prepare_of_le hdraft hdamage)
    · rw [if_neg hdamage]
      obtain ⟨d, hprepare, hd⟩ :=
        r.prepare_of_lt (h call hcall r hr) hdraft (Nat.not_le.1 hdamage)
      exact ⟨d, hd, Request.run_of_prepare_error call.colours hprepare⟩

/-- A parser that knows one name only. -/
def parseOne (text : Text) : Parse.Tree :=
  if text = ['a'] then oneName
  else .node ⟨"ERROR", none, 0, 1, ⟨0, 0⟩, ⟨0, 1⟩, .error⟩ []

theorem validates_renameArguments : (CommandLine.mk false renameArguments).Validates := by
  intro r hr
  obtain rfl := Invocation.request.inj (ofArguments_renameArguments.symm.trans hr)
  rfl

/-- A rename to a name that the parser does not know is refused, and the file still parses. -/
theorem unknown_name_refused :
    (CommandLine.mk false renameArguments).Validates ∧
      run parseOne false oneFile renameArguments =
        (.failed "" (.damaged "lib.rs" (.single 0 1)), oneFile) ∧
      ∃ next, (runAll parseOne oneFile [⟨false, renameArguments⟩]).textAt? ["src", "lib.rs"] =
        some next ∧ validate parseOne next = .ok () := by
  have hcalls : ∀ call ∈ [] ++ [CommandLine.mk false renameArguments], call.Validates :=
    List.forall_mem_singleton.2 validates_renameArguments
  obtain ⟨hkept, hanswer⟩ := damage_never_accumulates parseOne oneFile [] _ hcalls
  have htext : oneFile.textAt? ["src", "lib.rs"] = some ['a'] := decodeUtf8?_encodeUtf8 ['a']
  obtain ⟨next, hnext, -, hvalid⟩ := hkept ["src", "lib.rs"] ['a'] htext
  refine ⟨validates_renameArguments, ?_, next, hnext, hvalid rfl⟩
  have hrefused := hanswer _ (List.mem_singleton_self _) renameOne ofArguments_renameArguments
    oneFile ⟨['a'], ['b']⟩ (prepare_unvalidated_renameOne rfl)
  rw [if_neg (by decide)] at hrefused
  obtain ⟨d, hd, hrun⟩ := hrefused
  obtain ⟨node, hnode, -, rfl⟩ := hd.single rfl
  obtain rfl := List.mem_singleton.1 hnode
  exact hrun

end Command

end Retouch
