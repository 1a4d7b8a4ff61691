import Retouch.Proofs.Ranges
import Retouch.Text.Bytes

/-!
# Texts as bytes

The bytes of a text are the bytes of its characters, one after the other. So an offset in
characters has one in bytes, and editing by offsets in characters is editing by offsets in bytes.
-/

namespace Retouch

def bytes (text : Text) : List UInt8 := (encodeUtf8 text).data.toList

theorem bytes_eq_flatMap (text : Text) : bytes text = text.flatMap String.utf8EncodeChar :=
  List.toList_data_toByteArray

theorem bytes_append (s t : Text) : bytes (s ++ t) = bytes s ++ bytes t := by
  rw [bytes_eq_flatMap, bytes_eq_flatMap, bytes_eq_flatMap, List.flatMap_append]

theorem length_bytes (text : Text) : (bytes text).length = byteSize text := by
  rw [bytes_eq_flatMap]
  induction text with
  | nil => rfl
  | cons c text ih =>
    rw [List.flatMap_cons, List.length_append, ih, String.length_utf8EncodeChar, byteSize_cons]

theorem exists_byteSize_cons (c : Char) (s : Text) :
    ∃ n, byteSize (c :: s) = n + 1 ∧ n + 1 = c.utf8Size + byteSize s := by
  obtain ⟨n, hn⟩ := Nat.exists_eq_add_one.2 (Nat.add_pos_left c.utf8Size_pos (byteSize s))
  exact ⟨n, (byteSize_cons c s).trans hn, hn.symm⟩

theorem takeBytes?_append (s t : Text) : takeBytes? (s ++ t) (byteSize s) = some s := by
  induction s with
  | nil => cases t <;> rfl
  | cons c s ih =>
    obtain ⟨n, hn, hsize⟩ := exists_byteSize_cons c s
    rw [List.cons_append, hn, takeBytes?, hsize, if_pos (Nat.le_add_right _ _),
      Nat.add_sub_cancel_left, ih]
    rfl

theorem dropBytes?_append (s t : Text) : dropBytes? (s ++ t) (byteSize s) = some t := by
  induction s with
  | nil => cases t <;> rfl
  | cons c s ih =>
    obtain ⟨n, hn, hsize⟩ := exists_byteSize_cons c s
    rw [List.cons_append, hn, dropBytes?, hsize, if_pos (Nat.le_add_right _ _),
      Nat.add_sub_cancel_left, ih]

theorem byteSlice?_append (s t rest : Text) :
    byteSlice? (s ++ (t ++ rest)) (byteSize s) (byteSize (s ++ t)) = some t := by
  rw [byteSlice?, byteSize_append, if_pos (Nat.le_add_right _ _), dropBytes?_append,
    Nat.add_sub_cancel_left, Option.bind_some, takeBytes?_append]

theorem takeBytes?_eq_some {text s : Text} {n : Nat} (h : takeBytes? text n = some s) :
    ∃ rest, text = s ++ rest ∧ byteSize s = n := by
  fun_induction takeBytes? text n generalizing s with
  | case1 text =>
    obtain rfl := Option.some.inj h
    exact ⟨text, rfl, rfl⟩
  | case2 n => cases h
  | case3 c text n hfits ih =>
    obtain ⟨t, ht, rfl⟩ := Option.map_eq_some_iff.1 h
    obtain ⟨rest, rfl, hsize⟩ := ih ht
    refine ⟨rest, rfl, ?_⟩
    rw [byteSize_cons, hsize]
    omega
  | case4 c text n hcuts => cases h

theorem dropBytes?_eq_some {text rest : Text} {n : Nat} (h : dropBytes? text n = some rest) :
    ∃ s, text = s ++ rest ∧ byteSize s = n := by
  fun_induction dropBytes? text n with
  | case1 text =>
    obtain rfl := Option.some.inj h
    exact ⟨[], rfl, rfl⟩
  | case2 n => cases h
  | case3 c text n hfits ih =>
    obtain ⟨s, rfl, hsize⟩ := ih h
    refine ⟨c :: s, rfl, ?_⟩
    rw [byteSize_cons, hsize]
    omega
  | case4 c text n hcuts => cases h

/-- A range of bytes is a piece of a text exactly if the text divides at both of its ends. -/
theorem byteSlice?_eq_some_iff {text s : Text} {start stop : Nat} :
    byteSlice? text start stop = some s ↔
      ∃ u v, text = u ++ (s ++ v) ∧ byteSize u = start ∧ byteSize (u ++ s) = stop := by
  constructor
  · intro h
    rw [byteSlice?] at h
    split at h
    · rename_i hle
      obtain ⟨rest, hdrop, htake⟩ := Option.bind_eq_some_iff.1 h
      obtain ⟨u, rfl, hu⟩ := dropBytes?_eq_some hdrop
      obtain ⟨v, rfl, hs⟩ := takeBytes?_eq_some htake
      refine ⟨u, v, rfl, hu, ?_⟩
      rw [byteSize_append, hu, hs]
      omega
    · cases h
  · rintro ⟨u, v, rfl, rfl, rfl⟩
    exact byteSlice?_append u s v

theorem length_le_byteSize (text : Text) : text.length ≤ byteSize text := by
  induction text with
  | nil => exact le_refl _
  | cons c text ih =>
    have hpos := c.utf8Size_pos
    rw [List.length_cons, byteSize_cons]
    omega

/-- The offset in bytes of an offset in characters. -/
def byteAt (source : Text) (k : Nat) : Nat := byteSize (source.take k)

theorem byteAt_add (source : Text) (k n : Nat) :
    byteAt source (k + n) = byteAt source k + byteSize ((source.drop k).take n) := by
  rw [byteAt, List.take_add, byteSize_append]
  rfl

theorem byteSlice?_byteAt (source : Text) {j k : Nat} (hjk : j ≤ k) :
    byteSlice? source (byteAt source j) (byteAt source k) = some (source.extract j k) := by
  obtain ⟨n, rfl⟩ := Nat.exists_eq_add_of_le hjk
  refine byteSlice?_eq_some_iff.2 ⟨source.take j, source.drop (j + n), ?_, rfl, ?_⟩
  · rw [extract_append_drop source hjk, List.take_append_drop]
  · rw [byteSize_append, byteAt_add, List.extract_eq_take_drop, Nat.add_sub_cancel_left]
    rfl

theorem byteAt_length (source : Text) : byteAt source source.length = byteSize source := by
  rw [byteAt, List.take_length]

theorem byteAt_mono (source : Text) {j k : Nat} (hjk : j ≤ k) :
    byteAt source j ≤ byteAt source k := by
  obtain ⟨n, rfl⟩ := Nat.exists_eq_add_of_le hjk
  rw [byteAt_add]
  exact Nat.le_add_right _ _

theorem byteAt_lt {source : Text} {j k : Nat} (hjk : j < k) (hk : k ≤ source.length) :
    byteAt source j < byteAt source k := by
  obtain ⟨n, rfl⟩ := Nat.exists_eq_add_of_lt hjk
  obtain ⟨c, rest, hrest⟩ := exists_take_drop_eq_cons n.succ_pos hk
  have hpos := c.utf8Size_pos
  rw [Nat.add_assoc, byteAt_add, hrest, byteSize_cons]
  omega

theorem le_of_byteAt_le {source : Text} {j k : Nat} (hj : j ≤ source.length)
    (h : byteAt source j ≤ byteAt source k) : j ≤ k := by
  by_contra hkj
  exact absurd h (not_le.2 (byteAt_lt (by omega) hj))

theorem length_le_of_byteSize_le {s t text : Text} (hs : s <+: text) (ht : t <+: text)
    (h : byteSize s ≤ byteSize t) : s.length ≤ t.length := by
  apply le_of_byteAt_le hs.length_le
  rwa [byteAt, byteAt, ← List.prefix_iff_eq_take.1 hs, ← List.prefix_iff_eq_take.1 ht]

theorem bytes_take_append_drop (source : Text) (k : Nat) :
    bytes source = bytes (source.take k) ++ bytes (source.drop k) := by
  rw [← bytes_append, List.take_append_drop]

theorem bytes_take (source : Text) (k : Nat) :
    bytes (source.take k) = (bytes source).take (byteAt source k) := by
  rw [bytes_take_append_drop source k, byteAt, ← length_bytes, List.take_left]

theorem bytes_drop (source : Text) (k : Nat) :
    bytes (source.drop k) = (bytes source).drop (byteAt source k) := by
  rw [bytes_take_append_drop source k, byteAt, ← length_bytes, List.drop_left]

theorem bytes_extract (source : Text) {a b : Nat} (hab : a ≤ b) :
    bytes (source.extract a b) = (bytes source).extract (byteAt source a) (byteAt source b) := by
  obtain ⟨n, rfl⟩ := Nat.exists_eq_add_of_le hab
  rw [List.extract_eq_take_drop, List.extract_eq_take_drop, byteAt_add, Nat.add_sub_cancel_left,
    Nat.add_sub_cancel_left, bytes_take, bytes_drop]
  rfl

/-- The same range edit on the bytes of the text. -/
def RangeEdit.toBytes (source : Text) (e : RangeEdit Char) : RangeEdit UInt8 :=
  ⟨byteAt source e.lower, byteAt source e.upper, e.placement, bytes e.text⟩

theorem ascending_of_toBytes {source : Text} {lo : Nat} {ranges : List (RangeEdit Char)}
    (hlo : lo ≤ source.length) (hbounds : ∀ e ∈ ranges, e.lower ≤ source.length ∧
      e.upper ≤ source.length)
    (h : Ascending (byteAt source lo) (byteSize source) (ranges.map (RangeEdit.toBytes source))) :
    Ascending lo source.length ranges := by
  induction ranges generalizing lo with
  | nil => exact hlo
  | cons e ranges ih =>
    obtain ⟨hlower, hupper⟩ := hbounds e List.mem_cons_self
    obtain ⟨hle, hrange, hrest⟩ := h
    exact ⟨le_of_byteAt_le hlo hle, le_of_byteAt_le hlower hrange,
      ih hupper (fun e' he' => hbounds e' (List.mem_cons_of_mem e he')) hrest⟩

end Retouch
