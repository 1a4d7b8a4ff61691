import Mathlib.Data.List.Nodup
import Retouch.Proofs.TomlStatements

/-!
# The keys of a document

What stands at the top of a document's table, in order: each key with its value, or with nothing if
it is a table. `arrange` reads this off the statements. A key takes its place where it is first
named, except that a table that was only met on the way of other headers moves to its own header.
No key that a statement names is lost, and no value.
-/

namespace Retouch.Toml

/-- A key at the top of a document, with its value if it is no table. -/
abbrev Top := Key × Option (Value × Mark)

def Item.plain? : Item → Option (Value × Mark)
  | .value v mark => some (v, mark)
  | .table .. | .tables .. => none

def Entries.tops (entries : Entries) : List Top := entries.map fun e => (e.1, e.2.plain?)

def names (tops : List Top) : List Text := tops.map fun t => t.1.name

/-- A table that is named takes its place at the end unless it has one. -/
def mention (tops : List Top) (key : Key) : List Top :=
  if key.name ∈ names tops then tops else tops ++ [(key, none)]

/-- A header of its own moves a table to the end. -/
def Header.place (h : Header) (tops : List Top) : List Top :=
  match h.path, h.isList with
  | first :: _, _ => mention tops first
  | [], true => mention tops h.key
  | [], false => tops.filter (fun t => t.1.name != h.key.name || t.2.isSome) ++ [(h.key, none)]

/-- What a pair before the first header adds. -/
def placePair (tops : List Top) (path : List Key) (key : Key) (value : Value) (mark : Mark) :
    List Top :=
  match path with
  | [] => tops ++ [(key, some (value, mark))]
  | first :: _ => mention tops first

/-- The top of a document after more statements. Pairs under a header add nothing to it. -/
def arrangeFrom (tops : List Top) (underHeader : Bool) : List Statement → List Top
  | [] => tops
  | .header h _ :: statements => arrangeFrom (h.place tops) true statements
  | .pair path key value mark :: statements =>
    if underHeader then arrangeFrom tops true statements
    else arrangeFrom (placePair tops path key value mark) false statements

def arrange (statements : List Statement) : List Top := arrangeFrom [] false statements

/-- The key at the top of the document that a statement names. -/
def Statement.topKey : Statement → Key
  | header h _ => h.path.headD h.key
  | pair path key _ _ => path.headD key

/-- The statements that name a key at the top: the headers and the pairs before them. -/
def atTop (underHeader : Bool) : List Statement → List Statement
  | [] => []
  | .header h mark :: statements => .header h mark :: atTop true statements
  | .pair path key value mark :: statements =>
    if underHeader then atTop true statements
    else .pair path key value mark :: atTop false statements

/-- The top of the table when the current section is finished. -/
def Section.tops (current : Section) (root : Entries) : List Top :=
  match current.header with
  | none => current.entries.tops
  | some h => h.place root.tops

theorem Section.tops_of_none {current : Section} {root : Entries} (h : current.header = none) :
    current.tops root = current.entries.tops := by
  rw [Section.tops, h]

theorem Section.tops_of_some {current : Section} {root : Entries} {header : Header}
    (h : current.header = some header) : current.tops root = header.place root.tops := by
  rw [Section.tops, h]

section

variable {entries : Entries} {name : Text}

theorem names_tops (entries : Entries) : names entries.tops = entries.map fun e => e.1.name := by
  rw [names, Entries.tops, List.map_map]
  rfl

theorem find?_eq_none_iff : entries.find? name = none ↔ name ∉ names entries.tops := by
  simp [Entries.find?, names_tops]

theorem exists_of_find? {item : Item} (h : entries.find? name = some item) :
    ∃ e ∈ entries, e.1.name = name ∧ e.2 = item := by
  obtain ⟨e, he, rfl⟩ := Option.map_eq_some_iff.1 h
  exact ⟨e, List.mem_of_find?_eq_some he, by simpa using List.find?_some he, rfl⟩

theorem mem_names_of_find? {item : Item} (h : entries.find? name = some item) :
    name ∈ names entries.tops := by
  by_contra hno
  rw [find?_eq_none_iff.2 hno] at h
  cases h

/-- In a table with distinct keys, the item that is found is that of every such key. -/
theorem item_eq_of_find? {item : Item} (hdistinct : (names entries.tops).Nodup)
    (h : entries.find? name = some item) : ∀ e ∈ entries, e.1.name = name → e.2 = item := by
  intro e he hname
  obtain ⟨found, hfound, hsame, rfl⟩ := exists_of_find? h
  rw [names_tops] at hdistinct
  rw [List.inj_on_of_nodup_map hdistinct he hfound (hname.trans hsame.symm)]

/-- Another table in the place of a table changes nothing at the top. -/
theorem tops_update {item new : Item} (hdistinct : (names entries.tops).Nodup)
    (h : entries.find? name = some item) (hplain : new.plain? = item.plain?) :
    (entries.update name new).tops = entries.tops := by
  rw [Entries.tops, Entries.update, List.map_map, Entries.tops]
  apply List.map_congr_left
  intro e he
  by_cases hname : e.1.name = name
  · simp [hname, hplain, item_eq_of_find? hdistinct h e he hname]
  · simp [hname]

theorem tops_append (entries more : Entries) :
    Entries.tops (entries ++ more) = entries.tops ++ Entries.tops more := List.map_append

end

theorem mention_of_mem {tops : List Top} {key : Key} (h : key.name ∈ names tops) :
    mention tops key = tops := if_pos h

theorem mention_of_not_mem {tops : List Top} {key : Key} (h : key.name ∉ names tops) :
    mention tops key = tops ++ [(key, none)] := if_neg h

theorem names_append (tops more : List Top) : names (tops ++ more) = names tops ++ names more :=
  List.map_append

theorem mem_names_mention {tops : List Top} {key : Key} {name : Text} :
    name ∈ names (mention tops key) ↔ name ∈ names tops ∨ name = key.name := by
  by_cases h : key.name ∈ names tops
  · rw [mention_of_mem h]
    exact ⟨.inl, fun hname => hname.elim id fun heq => heq ▸ h⟩
  · rw [mention_of_not_mem h, names_append, List.mem_append]
    exact or_congr_right List.mem_singleton

theorem mention_mention (tops : List Top) (key : Key) :
    mention (mention tops key) key = mention tops key :=
  mention_of_mem (mem_names_mention.2 (.inr rfl))

theorem nodup_names_append {tops : List Top} {t : Top} (h : (names tops).Nodup)
    (ht : t.1.name ∉ names tops) : (names (tops ++ [t])).Nodup := by
  rw [names_append]
  refine List.nodup_append.2 ⟨h, List.nodup_singleton _, ?_⟩
  rintro name hname _ hlast rfl
  obtain rfl := List.mem_singleton.1 hlast
  exact ht hname

theorem nodup_names_mention {tops : List Top} {key : Key} (h : (names tops).Nodup) :
    (names (mention tops key)).Nodup := by
  by_cases hmem : key.name ∈ names tops
  · rwa [mention_of_mem hmem]
  · rw [mention_of_not_mem hmem]
    exact nodup_names_append h hmem

/-- What a change behind a key does to the entries with this key. -/
inductive Reached (entries : Entries) (key : Key) : Entries → Prop
  | opened {item : Item} : entries.find? key.name = none → item.plain? = none →
    Reached entries key (entries ++ [(key, item)])
  | entered {old new : Item} : entries.find? key.name = some old → old.plain? = none →
    new.plain? = none → Reached entries key (entries.update key.name new)

section

variable {β : Type} {dotted : Bool} {change : Origin → Entries → Option (β × Entries)}
  {first : Key} {path : List Key} {origin : Origin} {entries entries' : Entries} {result : β}

theorem exists_alter_inner
    (h : entries.alter dotted change (first :: path) origin = some (result, entries')) :
    Reached entries first entries' ∧
      ∃ origin inner inner', Entries.alter dotted change path origin inner =
        some (result, inner') := by
  unfold Entries.alter at h
  simp only [Option.bind_eq_bind, Option.pure_def] at h
  split at h
  · next hfind =>
    obtain ⟨⟨_, inner⟩, halter, heq⟩ := Option.bind_eq_some_iff.1 h
    obtain ⟨rfl, rfl⟩ := Prod.mk.inj (Option.some.inj heq)
    exact ⟨.opened hfind rfl, _, _, inner, halter⟩
  · cases h
  · next hfind =>
    obtain ⟨⟨_, inner⟩, halter, heq⟩ := Option.bind_eq_some_iff.1 h
    obtain ⟨rfl, rfl⟩ := Prod.mk.inj (Option.some.inj heq)
    exact ⟨.entered hfind rfl rfl, _, _, inner, halter⟩
  · next hfind =>
    split at h
    · cases h
    · obtain ⟨⟨_, inner⟩, halter, heq⟩ := Option.bind_eq_some_iff.1 h
      obtain ⟨rfl, rfl⟩ := Prod.mk.inj (Option.some.inj heq)
      exact ⟨.entered hfind rfl rfl, _, _, inner, halter⟩

/-- Changing a table behind a key names the key. -/
theorem tops_alter (hdistinct : (names entries.tops).Nodup)
    (h : entries.alter dotted change (first :: path) origin = some (result, entries')) :
    entries'.tops = mention entries.tops first := by
  cases (exists_alter_inner h).1 with
  | opened hfind hplain =>
    rw [mention_of_not_mem (find?_eq_none_iff.1 hfind), tops_append]
    simp [Entries.tops, hplain]
  | entered hfind hold hnew =>
    rw [mention_of_mem (mem_names_of_find? hfind)]
    exact tops_update hdistinct hfind (hnew.trans hold.symm)

theorem alter_nil : entries.alter dotted change [] origin = change origin entries := by
  rw [Entries.alter]

/-- The result of a change comes from the table that the path leads to. -/
theorem exists_change (h : entries.alter dotted change path origin = some (result, entries')) :
    ∃ origin inner inner', change origin inner = some (result, inner') := by
  induction path generalizing origin entries entries' with
  | nil =>
    rw [alter_nil] at h
    exact ⟨origin, entries, entries', h⟩
  | cons first path ih =>
    obtain ⟨-, _, _, _, halter⟩ := exists_alter_inner h
    exact ih halter

end

theorem tops_assign {entries entries' : Entries} {path : List Key} {key : Key} {value : Value}
    {mark : Mark} (hdistinct : (names entries.tops).Nodup)
    (h : entries.assign path key (.value value mark) = some entries') :
    entries'.tops = placePair entries.tops path key value mark ∧
      (names entries'.tops).Nodup := by
  simp only [Entries.assign, Option.bind_eq_bind, Option.bind_eq_some_iff, Option.pure_def,
    Option.some.injEq, Prod.exists] at h
  obtain ⟨_, entries1, halter, rfl⟩ := h
  cases path with
  | nil =>
    rw [alter_nil] at halter
    simp only [Option.ite_none_right_eq_some, Bool.and_eq_true, Option.isNone_iff_eq_none,
      Option.some.injEq, Prod.mk.injEq] at halter
    obtain ⟨⟨-, hfind⟩, -, rfl⟩ := halter
    refine ⟨tops_append _ _, ?_⟩
    rw [tops_append]
    exact nodup_names_append hdistinct (find?_eq_none_iff.1 hfind)
  | cons first path =>
    rw [tops_alter hdistinct halter]
    exact ⟨rfl, nodup_names_mention hdistinct⟩

section

variable {h : Header} {tops : List Top}

theorem place_of_path {first : Key} {path : List Key} (hpath : h.path = first :: path) :
    h.place tops = mention tops first := by
  rw [Header.place, hpath]

theorem place_of_list (hpath : h.path = []) (hlist : h.isList = true) :
    h.place tops = mention tops h.key := by
  rw [Header.place, hpath, hlist]

theorem place_of_table (hpath : h.path = []) (hlist : h.isList = false) :
    h.place tops =
      tops.filter (fun t => t.1.name != h.key.name || t.2.isSome) ++ [(h.key, none)] := by
  rw [Header.place, hpath, hlist]

theorem place_of_new (hpath : h.path = []) (hlist : h.isList = false)
    (hnew : h.key.name ∉ names tops) : h.place tops = tops ++ [(h.key, none)] := by
  rw [place_of_table hpath hlist, List.filter_eq_self.2]
  intro t ht
  have hne : t.1.name ≠ h.key.name := fun heq => hnew (heq ▸ List.mem_map_of_mem ht)
  simp [hne]

end

/-- A section is put where its header says. -/
theorem tops_finish_header {current : Section} {root entries : Entries} {header : Header}
    (hdistinct : (names root.tops).Nodup) (hheader : current.header = some header)
    (h : current.finish root = some entries) :
    entries.tops = header.place root.tops ∧ (names entries.tops).Nodup := by
  unfold Section.finish at h
  rw [hheader] at h
  simp only [Option.bind_eq_bind, Option.bind_eq_some_iff, Option.pure_def, Option.some.injEq,
    Prod.exists] at h
  obtain ⟨_, _, halter, rfl⟩ := h
  cases hpath : header.path with
  | cons first path =>
    rw [hpath] at halter
    rw [place_of_path hpath, tops_alter hdistinct halter]
    exact ⟨rfl, nodup_names_mention hdistinct⟩
  | nil =>
    rw [hpath, alter_nil] at halter
    split at halter
    · next hlist hfind =>
      obtain ⟨-, rfl⟩ := Prod.mk.inj (Option.some.inj halter)
      have hnew := find?_eq_none_iff.1 hfind
      rw [tops_append, place_of_new hpath hlist hnew]
      exact ⟨rfl, nodup_names_append hdistinct hnew⟩
    · next hlist hfind =>
      obtain ⟨-, rfl⟩ := Prod.mk.inj (Option.some.inj halter)
      have hnew := find?_eq_none_iff.1 hfind
      rw [tops_append, place_of_list hpath hlist, mention_of_not_mem hnew]
      exact ⟨rfl, nodup_names_append hdistinct hnew⟩
    · next mark last hlist hfind =>
      obtain ⟨-, rfl⟩ := Prod.mk.inj (Option.some.inj halter)
      have hsame : (root.update header.key.name (.tables ⟨mark.start, current.mark.stop⟩
          current.entries)).tops = root.tops := tops_update hdistinct hfind rfl
      rw [hsame, place_of_list hpath hlist, mention_of_mem (mem_names_of_find? hfind)]
      exact ⟨rfl, hdistinct⟩
    · cases halter

theorem tops_finish {current : Section} {root entries : Entries}
    (hdistinct : (names root.tops).Nodup)
    (hfirst : current.header = none → (names current.entries.tops).Nodup)
    (h : current.finish root = some entries) :
    entries.tops = current.tops root ∧ (names entries.tops).Nodup := by
  cases hheader : current.header with
  | none =>
    unfold Section.finish at h
    rw [hheader] at h
    obtain rfl := Option.some.inj h
    exact ⟨(Section.tops_of_none hheader).symm, hfirst hheader⟩
  | some header =>
    rw [Section.tops_of_some hheader]
    exact tops_finish_header hdistinct hheader h

theorem header_of_start {h : Header} {mark : Mark} {root root' : Entries} {current : Section}
    (hstart : Section.start h mark root = some (current, root')) : current.header = some h := by
  obtain ⟨_, entries, _, hchange⟩ := exists_change hstart
  split at hchange
  · obtain ⟨rfl, -⟩ := Prod.mk.inj (Option.some.inj hchange)
    rfl
  · obtain ⟨rfl, -⟩ := Prod.mk.inj (Option.some.inj hchange)
    rfl
  · obtain ⟨rfl, -⟩ := Prod.mk.inj (Option.some.inj hchange)
    rfl
  · cases hchange

theorem tops_erase (entries : Entries) (name : Text) :
    (entries.erase name).tops = entries.tops.filter fun t => t.1.name != name := by
  rw [Entries.tops, Entries.erase, Entries.tops, List.filter_map]
  rfl

/-- A table that is taken out leaves the place to its own header. -/
theorem place_erase {h : Header} {root : Entries} {item : Item}
    (hdistinct : (names root.tops).Nodup) (hpath : h.path = []) (hlist : h.isList = false)
    (hfind : root.find? h.key.name = some item) (hplain : item.plain? = none) :
    h.place (root.erase h.key.name).tops = h.place root.tops := by
  have hnone : ∀ t ∈ root.tops, t.1.name = h.key.name → t.2 = none := by
    intro t ht hname
    obtain ⟨e, he, rfl⟩ := List.mem_map.1 ht
    rw [← hplain, ← item_eq_of_find? hdistinct hfind e he hname]
  rw [place_of_table hpath hlist, place_of_table hpath hlist, tops_erase, List.filter_filter]
  congr 1
  apply List.filter_congr
  intro t ht
  by_cases hname : t.1.name = h.key.name
  · simp [hname, hnone t ht hname]
  · simp [hname]

/-- Starting a section takes its table out at most, and the section will put it back. -/
theorem tops_start {h : Header} {mark : Mark} {root root' : Entries} {current : Section}
    (hdistinct : (names root.tops).Nodup)
    (hstart : Section.start h mark root = some (current, root')) :
    h.place root'.tops = h.place root.tops ∧ (names root'.tops).Nodup := by
  unfold Section.start at hstart
  cases hpath : h.path with
  | cons first path =>
    rw [hpath] at hstart
    rw [place_of_path hpath, place_of_path hpath, tops_alter hdistinct hstart, mention_mention]
    exact ⟨rfl, nodup_names_mention hdistinct⟩
  | nil =>
    rw [hpath, alter_nil] at hstart
    split at hstart
    · obtain ⟨-, rfl⟩ := Prod.mk.inj (Option.some.inj hstart)
      exact ⟨rfl, hdistinct⟩
    · obtain ⟨-, rfl⟩ := Prod.mk.inj (Option.some.inj hstart)
      exact ⟨rfl, hdistinct⟩
    · next mark inner hlist hfind =>
      obtain ⟨-, rfl⟩ := Prod.mk.inj (Option.some.inj hstart)
      refine ⟨place_erase hdistinct hpath hlist hfind rfl, ?_⟩
      rw [tops_erase]
      exact hdistinct.sublist (List.filter_sublist.map _)
    · cases hstart

/-- Statements arrange the keys as they build the table. -/
theorem tops_build {statements : List Statement} {root entries : Entries} {current : Section}
    (hdistinct : (names root.tops).Nodup)
    (hfirst : current.header = none → (names current.entries.tops).Nodup)
    (h : build root current statements = some entries) :
    entries.tops = arrangeFrom (current.tops root) current.header.isSome statements ∧
      (names entries.tops).Nodup := by
  induction statements generalizing root current with
  | nil => exact tops_finish hdistinct hfirst h
  | cons s statements ih =>
    obtain ⟨⟨root', current'⟩, happly, hbuild⟩ := Option.bind_eq_some_iff.1 h
    cases s with
    | header header mark =>
      simp only [Statement.apply, Option.bind_eq_bind, Option.bind_eq_some_iff, Option.pure_def,
        Option.some.injEq, Prod.mk.injEq, Prod.exists] at happly
      obtain ⟨root1, hfinish, _, _, hstart, rfl, rfl⟩ := happly
      obtain ⟨htops, hdistinct1⟩ := tops_finish hdistinct hfirst hfinish
      obtain ⟨hplace, hdistinct'⟩ := tops_start hdistinct1 hstart
      have hheader := header_of_start hstart
      have hbuilt := ih hdistinct' (by simp [hheader]) hbuild
      rwa [Section.tops_of_some hheader, hheader, Option.isSome_some, hplace, htops] at hbuilt
    | pair path key value mark =>
      simp only [Statement.apply, Section.assign, Option.bind_eq_bind, Option.bind_eq_some_iff,
        Option.pure_def, Option.some.injEq, Prod.mk.injEq] at happly
      obtain ⟨_, ⟨entries1, hassign, rfl⟩, rfl, rfl⟩ := happly
      rcases current with ⟨_ | header, place, inner⟩
      · obtain ⟨htops, hdistinct1⟩ := tops_assign (hfirst rfl) hassign
        have hbuilt := ih hdistinct (fun _ => hdistinct1) hbuild
        rw [Section.tops_of_none rfl, htops] at hbuilt
        exact hbuilt
      · have hbuilt := ih hdistinct (fun hnone => by cases hnone) hbuild
        exact hbuilt

theorem mem_names_place {h : Header} {tops : List Top} {name : Text} :
    name ∈ names (h.place tops) ↔ name ∈ names tops ∨ name = (h.path.headD h.key).name := by
  cases hpath : h.path with
  | cons first path => rw [place_of_path hpath, mem_names_mention, List.headD_cons]
  | nil =>
    cases hlist : h.isList with
    | true => rw [place_of_list hpath hlist, mem_names_mention, List.headD_nil]
    | false =>
      rw [place_of_table hpath hlist, names_append, List.mem_append, List.headD_nil]
      constructor
      · rintro (hold | hnew)
        · exact .inl ((List.filter_sublist.map _).subset hold)
        · exact .inr (List.mem_singleton.1 hnew)
      · rintro (hold | rfl)
        · by_cases heq : name = h.key.name
          · exact .inr (List.mem_singleton.2 heq)
          · obtain ⟨t, ht, rfl⟩ := List.mem_map.1 hold
            exact .inl (List.mem_map.2 ⟨t, List.mem_filter.2 ⟨ht, by simp [heq]⟩, rfl⟩)
        · exact .inr (List.mem_singleton.2 rfl)

theorem mem_names_placePair {tops : List Top} {path : List Key} {key : Key} {value : Value}
    {mark : Mark} {name : Text} :
    name ∈ names (placePair tops path key value mark) ↔
      name ∈ names tops ∨ name = (path.headD key).name := by
  cases path with
  | nil =>
    rw [placePair, names_append, List.mem_append]
    exact or_congr_right List.mem_singleton
  | cons first path => exact mem_names_mention

/-- No key that a statement names is lost, and there are no others. -/
theorem mem_names_arrangeFrom {statements : List Statement} {tops : List Top}
    {underHeader : Bool} {name : Text} :
    name ∈ names (arrangeFrom tops underHeader statements) ↔
      name ∈ names tops ∨ ∃ s ∈ atTop underHeader statements, name = s.topKey.name := by
  induction statements generalizing tops underHeader with
  | nil => simp [arrangeFrom, atTop]
  | cons s statements ih =>
    cases s with
    | header h mark =>
      rw [arrangeFrom, atTop, ih, mem_names_place, or_assoc, List.exists_mem_cons_iff]
      rfl
    | pair path key value mark =>
      cases underHeader with
      | true => exact ih
      | false =>
        rw [arrangeFrom, atTop, if_neg (by simp), if_neg (by simp), ih, mem_names_placePair,
          or_assoc, List.exists_mem_cons_iff]
        rfl

theorem mem_mention_some {tops : List Top} {key k : Key} {x : Value × Mark} :
    (k, some x) ∈ mention tops key ↔ (k, some x) ∈ tops := by
  by_cases h : key.name ∈ names tops
  · rw [mention_of_mem h]
  · simp [mention_of_not_mem h]

theorem mem_place_some {h : Header} {tops : List Top} {k : Key} {x : Value × Mark} :
    (k, some x) ∈ h.place tops ↔ (k, some x) ∈ tops := by
  cases hpath : h.path with
  | cons first path => rw [place_of_path hpath, mem_mention_some]
  | nil =>
    cases hlist : h.isList with
    | true => rw [place_of_list hpath hlist, mem_mention_some]
    | false => simp [place_of_table hpath hlist]

theorem mem_placePair_some {tops : List Top} {path : List Key} {key k : Key} {value v : Value}
    {mark m : Mark} :
    (k, some (v, m)) ∈ placePair tops path key value mark ↔ (k, some (v, m)) ∈ tops ∨
      Statement.pair [] k v m = .pair path key value mark := by
  cases path with
  | nil => simp [placePair]
  | cons first path => simp [placePair, mem_mention_some]

/-- The values at the top are those of the pairs with a single key. -/
theorem mem_arrangeFrom_some {statements : List Statement} {tops : List Top} {underHeader : Bool}
    {k : Key} {v : Value} {m : Mark} :
    (k, some (v, m)) ∈ arrangeFrom tops underHeader statements ↔
      (k, some (v, m)) ∈ tops ∨ .pair [] k v m ∈ atTop underHeader statements := by
  induction statements generalizing tops underHeader with
  | nil => simp [arrangeFrom, atTop]
  | cons s statements ih =>
    cases s with
    | header h mark =>
      rw [arrangeFrom, atTop, ih, mem_place_some, List.mem_cons]
      simp
    | pair path key value mark =>
      cases underHeader with
      | true => exact ih
      | false =>
        rw [arrangeFrom, atTop, if_neg (by simp), if_neg (by simp), ih, mem_placePair_some,
          List.mem_cons, or_assoc]

theorem tops_read {text : Text} {entries : Entries} (h : read text = .ok entries) :
    ∃ statements, Laid (dropByteOrderMark text) statements ∧
      entries.tops = arrange statements ∧ (names entries.tops).Nodup := by
  obtain ⟨statements, hlaid, hbuild⟩ := exists_statements_of_read h
  have hnil : (names (Entries.tops [])).Nodup := List.nodup_nil
  exact ⟨statements, hlaid, tops_build hnil (fun _ => hnil) hbuild⟩

end Retouch.Toml
