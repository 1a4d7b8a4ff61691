import Retouch.Proofs.Outcome
import Retouch.Proofs.TomlLayout
import Retouch.Settings.Load

/-!
# What a text says about the settings

A document says what the settings are if each of its keys is the name of a check and has a boolean.
Otherwise the first key that does not fit is reported. Nothing that a statement of the document
names at the top is passed over, so no key is ignored.
-/

namespace Retouch

namespace Setting

theorem name_injective {a b : Setting} (h : a.name.toList = b.name.toList) : a = b := by
  revert h
  cases a <;> cases b <;> decide

theorem ofName?_eq_some_iff {name : Text} {setting : Setting} :
    ofName? name = some setting ↔ name = setting.name.toList := by
  constructor
  · intro h
    have hbeq := List.find?_some h
    exact (by simpa using hbeq : setting.name.toList = name).symm
  · rintro rfl
    cases setting <;> decide

theorem ofName?_eq_none_iff {name : Text} :
    ofName? name = none ↔ ∀ setting : Setting, name ≠ setting.name.toList := by
  rw [Option.eq_none_iff_forall_ne_some]
  exact forall_congr' fun setting => not_congr ofName?_eq_some_iff

end Setting

namespace Settings

def get (settings : Settings) : Setting → Bool
  | .overlapping => settings.rejectOverlapping
  | .outOfBounds => settings.rejectOutOfBounds

/-- The entry gives a check a boolean. -/
def Sets (e : Toml.Key × Toml.Item) (setting : Setting) (b : Bool) : Prop :=
  e.1.name = setting.name.toList ∧ e.2.toValue = .boolean b

/-- What is wrong with an entry that sets nothing. -/
inductive Misfits (e : Toml.Key × Toml.Item) : Misfit → Prop
  | unknownKey : (∀ setting : Setting, e.1.name ≠ setting.name.toList) → Misfits e (.unknownKey e.1)
  | notBoolean (setting : Setting) : e.1.name = setting.name.toList →
    (∀ b, e.2.toValue ≠ .boolean b) → Misfits e (.notBoolean e.2.toValue e.2.mark)

/-- Each entry sets what the settings are, and a check that no entry sets is off. -/
structure Says (entries : Toml.Entries) (settings : Settings) : Prop where
  given : ∀ e ∈ entries, ∃ setting b, Sets e setting b ∧ settings.get setting = b
  absent : ∀ setting, (∀ e ∈ entries, e.1.name ≠ setting.name.toList) →
    settings.get setting = false

/-- What is wrong with the first entry that sets nothing. -/
def FirstMisfit (entries : Toml.Entries) (misfit : Misfit) : Prop :=
  ∃ before e after, entries = before ++ e :: after ∧
    (∀ e' ∈ before, ∃ setting b, Sets e' setting b) ∧ Misfits e misfit

theorem get_set (settings : Settings) (setting other : Setting) (b : Bool) :
    (settings.set setting b).get other = if other = setting then b else settings.get other := by
  cases setting <;> cases other <;> rfl

theorem ext_get {settings settings' : Settings} (h : ∀ s, settings.get s = settings'.get s) :
    settings = settings' := by
  obtain ⟨_, _⟩ := settings
  obtain ⟨_, _⟩ := settings'
  rw [Settings.mk.injEq]
  exact ⟨h .overlapping, h .outOfBounds⟩

theorem addEntry_of_sets {e : Toml.Key × Toml.Item} {setting : Setting} {b : Bool}
    (h : Sets e setting b) (settings : Settings) :
    settings.addEntry e = .ok (settings.set setting b) := by
  rw [addEntry, Setting.ofName?_eq_some_iff.2 h.1, h.2]

theorem addEntry_of_misfits {e : Toml.Key × Toml.Item} {misfit : Misfit} (h : Misfits e misfit)
    (settings : Settings) : settings.addEntry e = .error misfit := by
  cases h with
  | unknownKey hname => rw [addEntry, Setting.ofName?_eq_none_iff.2 hname]
  | notBoolean setting hname hvalue =>
    rw [addEntry, Setting.ofName?_eq_some_iff.2 hname]
    dsimp only
    split
    · next b hb => exact absurd hb (hvalue b)
    · rfl

/-- An entry sets a check, or something is wrong with it. -/
theorem sets_or_misfits (e : Toml.Key × Toml.Item) :
    (∃ setting b, Sets e setting b) ∨ ∃ misfit, Misfits e misfit := by
  by_cases hname : ∃ setting : Setting, e.1.name = setting.name.toList
  · obtain ⟨setting, hname⟩ := hname
    by_cases hvalue : ∃ b, e.2.toValue = .boolean b
    · obtain ⟨b, hvalue⟩ := hvalue
      exact .inl ⟨setting, b, hname, hvalue⟩
    · exact .inr ⟨_, .notBoolean setting hname fun b hb => hvalue ⟨b, hb⟩⟩
  · exact .inr ⟨_, .unknownKey fun setting heq => hname ⟨setting, heq⟩⟩

theorem not_misfits_of_sets {e : Toml.Key × Toml.Item} {setting : Setting} {b : Bool}
    {misfit : Misfit} (h : Sets e setting b) : ¬Misfits e misfit := by
  intro hmisfit
  have hok := addEntry_of_sets h .lenient
  rw [addEntry_of_misfits hmisfit] at hok
  cases hok

theorem Sets.unique {e : Toml.Key × Toml.Item} {setting setting' : Setting} {b b' : Bool}
    (h : Sets e setting b) (h' : Sets e setting' b') : setting' = setting ∧ b' = b :=
  ⟨Setting.name_injective (h'.1.symm.trans h.1),
    Toml.Value.boolean.inj (h'.2.symm.trans h.2)⟩

section

variable {entries : Toml.Entries} {start settings : Settings}

theorem exists_foldlM (h : ∀ e ∈ entries, ∃ setting b, Sets e setting b) (start : Settings) :
    ∃ settings, entries.foldlM addEntry start = .ok settings := by
  induction entries generalizing start with
  | nil => exact ⟨start, rfl⟩
  | cons e entries ih =>
    obtain ⟨⟨setting, b, hsets⟩, hrest⟩ := List.forall_mem_cons.1 h
    rw [List.foldlM_cons, addEntry_of_sets hsets]
    exact ih hrest _

/-- What a run over entries with distinct keys leaves: what the entries set, and else what there
was at the start. -/
theorem get_of_foldlM (hdistinct : (entries.map fun e => e.1.name).Nodup)
    (h : entries.foldlM addEntry start = .ok settings) :
    (∀ e ∈ entries, ∃ setting b, Sets e setting b ∧ settings.get setting = b) ∧
      ∀ setting, (∀ e ∈ entries, e.1.name ≠ setting.name.toList) →
        settings.get setting = start.get setting := by
  induction entries generalizing start with
  | nil =>
    obtain rfl := Except.ok.inj h
    exact ⟨List.forall_mem_nil _, fun setting _ => rfl⟩
  | cons e entries ih =>
    rw [List.foldlM_cons] at h
    obtain ⟨hnew, hdistinct⟩ := List.nodup_cons.1 hdistinct
    rcases sets_or_misfits e with ⟨setting, b, hsets⟩ | ⟨misfit, hmisfit⟩
    · rw [addEntry_of_sets hsets] at h
      obtain ⟨hgiven, habsent⟩ := ih hdistinct h
      have hkept : settings.get setting = b := by
        have hnot : ∀ e' ∈ entries, e'.1.name ≠ setting.name.toList := fun e' he' heq =>
          hnew (List.mem_map.2 ⟨e', he', heq.trans hsets.1.symm⟩)
        rw [habsent setting hnot, get_set, if_pos rfl]
      refine ⟨List.forall_mem_cons.2 ⟨⟨setting, b, hsets, hkept⟩, hgiven⟩, ?_⟩
      intro other hother
      obtain ⟨hfirst, hothers⟩ := List.forall_mem_cons.1 hother
      have hne : other ≠ setting := by
        rintro rfl
        exact hfirst hsets.1
      rw [habsent other hothers, get_set, if_neg hne]
    · rw [addEntry_of_misfits hmisfit] at h
      cases h

theorem Says.get_eq {e : Toml.Key × Toml.Item} {setting : Setting} {b : Bool}
    (h : Says entries settings) (he : e ∈ entries) (hsets : Sets e setting b) :
    settings.get setting = b := by
  obtain ⟨setting', b', hsets', hget⟩ := h.given e he
  obtain ⟨rfl, rfl⟩ := hsets.unique hsets'
  exact hget

theorem Says.unique {settings' : Settings} (h : Says entries settings)
    (h' : Says entries settings') : settings = settings' := by
  apply ext_get
  intro setting
  by_cases hthere : ∃ e ∈ entries, e.1.name = setting.name.toList
  · obtain ⟨e, he, hname⟩ := hthere
    obtain ⟨other, b, hsets, hget⟩ := h.given e he
    obtain rfl := Setting.name_injective (hname.symm.trans hsets.1)
    rw [hget, h'.get_eq he hsets]
  · have hno : ∀ e ∈ entries, e.1.name ≠ setting.name.toList :=
      fun e he heq => hthere ⟨e, he, heq⟩
    rw [h.absent setting hno, h'.absent setting hno]

theorem ofEntries_eq_ok_iff (hdistinct : (entries.map fun e => e.1.name).Nodup) :
    ofEntries entries = .ok settings ↔ Says entries settings := by
  have hmeans : ∀ {settings}, ofEntries entries = .ok settings →
      Says entries settings := by
    intro settings h
    obtain ⟨hgiven, habsent⟩ := get_of_foldlM hdistinct h
    refine ⟨hgiven, fun setting hno => ?_⟩
    rw [habsent setting hno]
    cases setting <;> rfl
  constructor
  · exact hmeans
  · intro h
    obtain ⟨found, hfound⟩ := exists_foldlM (fun e he => by
      obtain ⟨setting, b, hsets, -⟩ := h.given e he
      exact ⟨setting, b, hsets⟩) .lenient
    rw [h.unique (hmeans hfound)]
    exact hfound

end

theorem Misfits.unique {e : Toml.Key × Toml.Item} {misfit misfit' : Misfit} (h : Misfits e misfit)
    (h' : Misfits e misfit') : misfit = misfit' := by
  have herror := addEntry_of_misfits h .lenient
  rw [addEntry_of_misfits h'] at herror
  exact (Except.error.inj herror).symm

section

variable {entries : Toml.Entries} {e : Toml.Key × Toml.Item} {misfit : Misfit}

theorem firstMisfit_cons_of_sets {setting : Setting} {b : Bool} (h : Sets e setting b) :
    FirstMisfit (e :: entries) misfit ↔ FirstMisfit entries misfit := by
  constructor
  · rintro ⟨_ | ⟨first, before⟩, found, after, heq, hbefore, hfound⟩
    · obtain ⟨rfl, -⟩ := List.cons.inj heq
      exact absurd hfound (not_misfits_of_sets h)
    · obtain ⟨-, hrest⟩ := List.cons.inj heq
      exact ⟨before, found, after, hrest, (List.forall_mem_cons.1 hbefore).2, hfound⟩
  · rintro ⟨before, found, after, rfl, hbefore, hfound⟩
    exact ⟨e :: before, found, after, rfl, List.forall_mem_cons.2 ⟨⟨setting, b, h⟩, hbefore⟩,
      hfound⟩

theorem firstMisfit_cons_of_misfits {found : Misfit} (h : Misfits e found) :
    FirstMisfit (e :: entries) misfit ↔ found = misfit := by
  constructor
  · rintro ⟨_ | ⟨first, before⟩, e', after, heq, hbefore, hmisfit⟩
    · obtain ⟨rfl, -⟩ := List.cons.inj heq
      exact h.unique hmisfit
    · obtain ⟨rfl, -⟩ := List.cons.inj heq
      obtain ⟨setting, b, hsets⟩ := (List.forall_mem_cons.1 hbefore).1
      exact absurd h (not_misfits_of_sets hsets)
  · rintro rfl
    exact ⟨[], e, entries, rfl, List.forall_mem_nil _, h⟩

theorem foldlM_eq_error_iff (start : Settings) :
    entries.foldlM addEntry start = .error misfit ↔ FirstMisfit entries misfit := by
  induction entries generalizing start with
  | nil =>
    constructor
    · intro h
      cases h
    · rintro ⟨before, e, after, heq, -⟩
      simp at heq
  | cons e entries ih =>
    rw [List.foldlM_cons]
    rcases sets_or_misfits e with ⟨setting, b, hsets⟩ | ⟨found, hfound⟩
    · rw [addEntry_of_sets hsets, firstMisfit_cons_of_sets hsets]
      exact ih _
    · rw [addEntry_of_misfits hfound, firstMisfit_cons_of_misfits hfound]
      constructor
      · exact Except.error.inj
      · rintro rfl
        rfl

theorem ofEntries_eq_error_iff :
    ofEntries entries = .error misfit ↔ FirstMisfit entries misfit :=
  foldlM_eq_error_iff .lenient

end

section

variable {text : Text} {entries : Toml.Entries}

theorem ofText_of_read (h : Toml.read text = .ok entries) :
    ofText text = (ofEntries entries).mapError (.unfit none text) := by
  rw [ofText, h]

theorem nodup_names_of_read (h : Toml.read text = .ok entries) :
    (entries.map fun e => e.1.name).Nodup := by
  obtain ⟨_, -, -, hdistinct⟩ := Toml.tops_read h
  rwa [Toml.names_tops] at hdistinct

theorem ofText_eq_ok_iff {settings : Settings} :
    ofText text = .ok settings ↔
      ∃ entries, Toml.read text = .ok entries ∧ Says entries settings := by
  constructor
  · intro h
    cases hread : Toml.read text with
    | error rest =>
      rw [ofText, hread] at h
      cases h
    | ok entries =>
      rw [ofText_of_read hread, mapError_eq_ok_iff] at h
      exact ⟨entries, rfl, (ofEntries_eq_ok_iff (nodup_names_of_read hread)).1 h⟩
  · rintro ⟨entries, hread, hmeans⟩
    rw [ofText_of_read hread, mapError_eq_ok_iff]
    exact (ofEntries_eq_ok_iff (nodup_names_of_read hread)).2 hmeans

theorem ofText_eq_error_iff {error : LoadError} (h : Toml.read text = .ok entries) :
    ofText text = .error error ↔
      ∃ misfit, FirstMisfit entries misfit ∧ error = .unfit none text misfit := by
  simp only [ofText_of_read h, ← ofEntries_eq_error_iff]
  cases ofEntries entries with
  | ok settings => simp [Except.mapError]
  | error misfit => simp [Except.mapError, eq_comm]

end

end Settings

end Retouch
