import Retouch.Proofs.PassReprint

/-!
# Renaming several names at once

Passes that rename distinct names can be joined in any order. Each of them reads the names in the
source and not what another pass puts in their place, so a name is replaced by the text of the one
pass that asks for it, and two names can be swapped.
-/

namespace Retouch.Parse

/-- A name and the text to put in its place. -/
structure Renaming where
  old : Text
  new : Text

def Renaming.pass (source : Text) (r : Renaming) : Pass := .rename source r.old r.new

theorem rename_eq_none {source old new name : Text} {tree : Tree}
    (hname : tree.label.text? source = some name) (hne : name ≠ old) :
    Pass.rename source old new tree = none := by
  rw [Option.eq_none_iff_forall_ne_some]
  intro e he
  have hold := (rename_eq_some_iff.1 he).2.1
  exact hne (Option.some.inj (hname.symm.trans hold))

/-- The joined passes replace exactly the names that one of them asks for. No two ask for the same
name, so it makes no difference which one is asked first. -/
theorem firstOf_renamings_eq_some_iff {source : Text} {renamings : List Renaming}
    (hdistinct : (renamings.map Renaming.old).Nodup) {tree : Tree} {e : Edit} :
    Pass.firstOf (renamings.map (Renaming.pass source)) tree = some e ↔
      tree.label.kind ∈ Pass.nameKinds ∧ ∃ r ∈ renamings,
        tree.label.text? source = some r.old ∧
          e = ⟨.replace, r.new, tree.label.span source⟩ := by
  constructor
  · intro h
    obtain ⟨pass, hpass, hanswer⟩ := List.exists_of_findSome?_eq_some h
    obtain ⟨r, hr, rfl⟩ := List.mem_map.1 hpass
    obtain ⟨hkind, hname, hedit⟩ := rename_eq_some_iff.1 hanswer
    exact ⟨hkind, r, hr, hname, hedit⟩
  · rintro ⟨hkind, r, hr, hname, hedit⟩
    induction renamings with
    | nil => cases hr
    | cons d renamings ih =>
      obtain ⟨hd, hdistinct⟩ := List.nodup_cons.1 hdistinct
      rw [List.map_cons, firstOf_cons]
      rcases List.mem_cons.1 hr with rfl | hr
      · rw [Renaming.pass, rename_eq_some_iff.2 ⟨hkind, hname, hedit⟩, Option.some_or]
      · have hne : r.old ≠ d.old := fun hsame =>
          hd (hsame ▸ List.mem_map_of_mem hr)
        rw [Renaming.pass, rename_eq_none hname hne, Option.none_or]
        exact ih hdistinct hr

theorem firstOf_renamings_eq_of_perm {source : Text} {renamings others : List Renaming}
    (hperm : renamings.Perm others) (hdistinct : (renamings.map Renaming.old).Nodup) :
    Pass.firstOf (renamings.map (Renaming.pass source)) =
      Pass.firstOf (others.map (Renaming.pass source)) := by
  have hothers : (others.map Renaming.old).Nodup := (hperm.map Renaming.old).nodup_iff.1 hdistinct
  funext tree
  apply Option.ext
  intro e
  rw [firstOf_renamings_eq_some_iff hdistinct, firstOf_renamings_eq_some_iff hothers]
  simp only [hperm.mem_iff]

theorem get_old_inj {renamings : List Renaming} (hdistinct : (renamings.map Renaming.old).Nodup)
    {i j : Fin renamings.length} (h : (renamings.get j).old = (renamings.get i).old) : j = i := by
  have hsame : renamings.get j = renamings.get i :=
    List.inj_on_of_nodup_map hdistinct (List.get_mem _ _) (List.get_mem _ _) h
  exact (List.nodup_iff_injective_get.1 (List.Nodup.of_map _ hdistinct)) hsame

/-- A match names one renaming, and its edit is that of this renaming. -/
theorem exists_renaming_of_firstOf {source : Text} {renamings : List Renaming}
    (hdistinct : (renamings.map Renaming.old).Nodup) {tree : Tree} {e : Edit}
    (h : Pass.firstOf (renamings.map (Renaming.pass source)) tree = some e) :
    ∃ i : Fin renamings.length, e = ⟨.replace, (renamings.get i).new, tree.label.span source⟩ ∧
      ∀ j, tree.label.text? source = some (renamings.get j).old ↔ j = i := by
  obtain ⟨-, r, hr, hname, hedit⟩ := (firstOf_renamings_eq_some_iff hdistinct).1 h
  obtain ⟨i, rfl⟩ := List.mem_iff_get.1 hr
  refine ⟨i, hedit, fun j => ?_⟩
  constructor
  · intro hj
    exact get_old_inj hdistinct (Option.some.inj (hj.symm.trans hname))
  · rintro rfl
    exact hname

variable {σ ε : Type}

/-- Passes that rename distinct names reprint alike in whatever order they are joined, with any
settings. Each edit found replaces a node whose name in the source is the old name of one renaming
only, and the edit's text is the new name of that renaming. No name that a renaming asks for is
passed over, whatever the new names are, so two names can be swapped. -/
theorem renamings_ignore_order {renamings others : List Renaming}
    (hperm : renamings.Perm others) (hdistinct : (renamings.map Renaming.old).Nodup)
    (source : Text) (tree : Tree) (state : σ) :
    ∃ (passes : List Pass) (matched : List (Tree × Edit)),
      passes = renamings.map (Renaming.pass source) ∧
      matched = outermost (Pass.firstOf passes) tree ∧
      (∀ (settings : Settings) (target : Text),
        settings.reprint? (joined passes : Visitor Node σ ε) tree target state =
          settings.reprint? (joined (others.map (Renaming.pass source))) tree target state) ∧
      (walk (joined passes : Visitor Node σ ε) tree state).result = .ok (matched.map Prod.snd) ∧
      (∀ m ∈ matched, ∃ i : Fin renamings.length,
        m.2 = ⟨.replace, (renamings.get i).new, m.1.label.span source⟩ ∧
          ∀ j, m.1.label.text? source = some (renamings.get j).old ↔ j = i) ∧
      ∀ t : Tree, t.label.kind ∈ Pass.nameKinds → ∀ r ∈ renamings,
        t.label.text? source = some r.old →
          Pass.firstOf passes t = some ⟨.replace, r.new, t.label.span source⟩ := by
  refine ⟨renamings.map (Renaming.pass source), _, rfl, rfl, ?_, ?_, ?_, ?_⟩
  · intro settings target
    rw [joined_eq_ofAnswer, joined_eq_ofAnswer, firstOf_renamings_eq_of_perm hperm hdistinct]
  · rw [joined_eq_ofAnswer, result_walk_ofAnswer]
  · intro m hm
    exact exists_renaming_of_firstOf hdistinct (mem_outermost hm).2
  · intro t hkind r hr hname
    exact (firstOf_renamings_eq_some_iff hdistinct).2 ⟨hkind, r, hr, hname, rfl⟩

def pairText : Text := ['a', ' ', 'b']

/-- Two names next to each other. -/
def pairTree : Tree :=
  .node ⟨"source_file", none, 0, 3, ⟨0, 0⟩, ⟨0, 3⟩, .sound⟩
    [.node ⟨"identifier", none, 0, 1, ⟨0, 0⟩, ⟨0, 1⟩, .sound⟩ [],
      .node ⟨"type_identifier", none, 2, 3, ⟨0, 2⟩, ⟨0, 3⟩, .sound⟩ []]

def swapping : List Renaming := [⟨['a'], ['b']⟩, ⟨['b'], ['a']⟩]

theorem swapping_ignores_order :
    ∃ out : Text, swapping.Perm swapping.reverse ∧ (swapping.map Renaming.old).Nodup ∧
      out = ['b', ' ', 'a'] ∧
      (Settings.strict.reprint? (joined (swapping.map (Renaming.pass pairText)) :
        Visitor Node Unit Empty) pairTree pairText ()).outcome = .ok out ∧
      (Settings.strict.reprint? (joined (swapping.reverse.map (Renaming.pass pairText)) :
        Visitor Node Unit Empty) pairTree pairText ()).outcome = .ok out := by
  have hperm : swapping.Perm swapping.reverse := (List.reverse_perm swapping).symm
  have hdistinct : (swapping.map Renaming.old).Nodup := by decide
  obtain ⟨_, _, rfl, rfl, hsame, hfound, -, -⟩ :=
    renamings_ignore_order (σ := Unit) (ε := Empty) hperm hdistinct pairText pairTree ()
  have hout : (Settings.strict.reprint? (joined (swapping.map (Renaming.pass pairText)) :
      Visitor Node Unit Empty) pairTree pairText ()).outcome = .ok ['b', ' ', 'a'] := by
    rw [outcome_reprint?_eq_ok_iff (by decide)]
    refine ⟨_, hfound, ?_, ?_⟩
    · rw [Edit.sort_eq_self (by decide)]
      decide
    · rw [Edit.sort_eq_self (by decide)]
      decide
  refine ⟨_, hperm, hdistinct, rfl, hout, ?_⟩
  rw [← hsame]
  exact hout

end Retouch.Parse
