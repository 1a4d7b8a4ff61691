import Retouch.Proofs.PassReprint

/-!
# Passes that read another text

The passes may be given a text that is not the one the tree was made from. A node's bounds are then
counted one by one, each in characters where its line can be read and in bytes where it cannot. The
two counts can disagree only at a torn node, whose start is counted in bytes and whose stop in
characters. Strict reprinting does not look for that: it is editing by offsets exactly as long as no
match is torn.
-/

namespace Retouch.Parse

/-- The column of a byte from zero: the characters of its line before it, if these can be read. -/
def countedColumn (source : Text) (byte : Nat) (point : Point) : Nat :=
  match byteSlice? source (byte - point.column) byte with
  | some line => line.length
  | none => point.column

theorem position_eq_ofZeroBased (source : Text) (byte : Nat) (point : Point) :
    position source byte point = .ofZeroBased point.row (countedColumn source byte point) := by
  unfold position countedColumn
  cases byteSlice? source (byte - point.column) byte <;> rfl

theorem pointAfter_row_append (s t : Text) :
    (pointAfter (s ++ t)).row = (pointAfter s).row + t.count '\n' :=
  List.count_append

theorem pointAfter_column_append (s : Text) {t : Text} (h : '\n' ∉ t) :
    (pointAfter (s ++ t)).column = (pointAfter s).column + byteSize t := by
  induction t using List.reverseRecOn with
  | nil => rw [List.append_nil, byteSize_nil, Nat.add_zero]
  | append_singleton t c ih =>
    obtain ⟨ht, hc⟩ := not_or.1 (mt List.mem_append.2 h)
    have hkept : (c != '\n') = true := bne_iff_ne.2 fun heq => hc (List.mem_singleton.2 heq.symm)
    have hline : (s ++ t ++ [c]).rtakeWhile (fun c => c != '\n') =
        (s ++ t).rtakeWhile (fun c => c != '\n') ++ [c] :=
      List.rtakeWhile_concat_pos (fun c => c != '\n') _ c hkept
    have hcolumn := ih ht
    simp only [pointAfter] at hcolumn ⊢
    rw [← List.append_assoc, hline, byteSize_append, hcolumn, byteSize_append, Nat.add_assoc]

theorem pointAfter_column_le (text : Text) : (pointAfter text).column ≤ byteSize text := by
  obtain ⟨above, habove⟩ := List.rtakeWhile_suffix (fun c => c != '\n') text
  have hsize := congrArg byteSize habove
  rw [byteSize_append] at hsize
  simp only [pointAfter]
  omega

namespace Node.Fits

variable {text : Text} {node : Node}

theorem exists_mid (h : node.Fits text) : ∃ s mid : Text,
    byteSize s = node.startByte ∧ pointAfter s = node.startPoint ∧
      byteSize (s ++ mid) = node.stopByte ∧ pointAfter (s ++ mid) = node.stopPoint := by
  obtain ⟨s, hs, hstart, hstartPoint⟩ := h.start
  obtain ⟨t, ht, hstop, hstopPoint⟩ := h.stop
  have hle : byteSize s ≤ byteSize t := by
    rw [hstart, hstop]
    exact h.start_le_stop
  obtain ⟨mid, rfl⟩ := List.prefix_of_prefix_length_le hs ht (length_le_of_byteSize_le hs ht hle)
  exact ⟨s, mid, hstart, hstartPoint, hstop, hstopPoint⟩

theorem row_le (h : node.Fits text) : node.startPoint.row ≤ node.stopPoint.row := by
  obtain ⟨s, mid, -, hstart, -, hstop⟩ := h.exists_mid
  rw [← hstart, ← hstop, pointAfter_row_append]
  exact Nat.le_add_right _ _

/-- On one row both bounds are counted from the same byte, the first of the row. -/
theorem sameRow (h : node.Fits text) (hrow : node.startPoint.row = node.stopPoint.row) :
    node.startPoint.column ≤ node.startByte ∧
      node.stopByte - node.stopPoint.column = node.startByte - node.startPoint.column ∧
      node.startPoint.column ≤ node.stopPoint.column := by
  obtain ⟨s, mid, hstart, hstartPoint, hstop, hstopPoint⟩ := h.exists_mid
  rw [← hstartPoint, ← hstopPoint, pointAfter_row_append] at hrow
  have hmid : '\n' ∉ mid := List.count_eq_zero.1 (by omega)
  have hcolumn := pointAfter_column_append s hmid
  have hle := pointAfter_column_le s
  rw [byteSize_append] at hstop
  rw [← hstartPoint, ← hstopPoint]
  omega

end Node.Fits

/-- A node on one row whose start is counted in bytes and whose stop is counted in characters, of
which there are fewer than the bytes before the start. -/
structure Node.Torn (source : Text) (node : Node) : Prop where
  oneRow : node.startPoint.row = node.stopPoint.row
  start : byteSlice? source (node.startByte - node.startPoint.column) node.startByte = none
  stop : ∃ line,
    byteSlice? source (node.stopByte - node.stopPoint.column) node.stopByte = some line ∧
      line.length < node.startPoint.column

theorem length_le_of_byteSlice? {source s t : Text} {start stop stop' : Nat}
    (hs : byteSlice? source start stop = some s) (ht : byteSlice? source start stop' = some t)
    (hle : stop ≤ stop') : s.length ≤ t.length := by
  obtain ⟨u, v, hsource, hu, hus⟩ := byteSlice?_eq_some_iff.1 hs
  obtain ⟨u', v', hsource', hu', hut⟩ := byteSlice?_eq_some_iff.1 ht
  have hprefix : u <+: source := ⟨_, hsource.symm⟩
  have hprefix' : u' <+: source := ⟨_, hsource'.symm⟩
  have hbefore := length_le_of_byteSize_le hprefix' hprefix (by omega)
  have hpiece : u ++ s <+: source := ⟨v, by rw [hsource, List.append_assoc]⟩
  have hpiece' : u' ++ t <+: source := ⟨v', by rw [hsource', List.append_assoc]⟩
  have hwhole := length_le_of_byteSize_le hpiece hpiece' (by omega)
  rw [List.length_append, List.length_append] at hwhole
  omega

/-- On one row the columns of a node's bounds are in order unless the node is torn. -/
theorem Node.Fits.countedColumn_le_iff {text : Text} {node : Node} (h : node.Fits text)
    (hrow : node.startPoint.row = node.stopPoint.row) (source : Text) :
    countedColumn source node.startByte node.startPoint ≤
        countedColumn source node.stopByte node.stopPoint ↔
      ¬ node.Torn source := by
  obtain ⟨hcolumn, hline, hle⟩ := h.sameRow hrow
  cases hstart : byteSlice? source (node.startByte - node.startPoint.column) node.startByte with
  | some s =>
    have hwhole : ¬ node.Torn source := fun htorn => by
      have hnone := htorn.start
      rw [hstart] at hnone
      cases hnone
    refine iff_of_true ?_ hwhole
    rw [countedColumn, hstart, countedColumn]
    cases hstop : byteSlice? source (node.stopByte - node.stopPoint.column) node.stopByte with
    | some t =>
      rw [hline] at hstop
      exact length_le_of_byteSlice? hstart hstop h.start_le_stop
    | none =>
      obtain ⟨u, v, -, hu, hus⟩ := byteSlice?_eq_some_iff.1 hstart
      have hlength : s.length ≤ byteSize s := length_le_byteSize s
      rw [byteSize_append] at hus
      dsimp only
      omega
  | none =>
    rw [countedColumn, hstart, countedColumn]
    cases hstop : byteSlice? source (node.stopByte - node.stopPoint.column) node.stopByte with
    | some t =>
      dsimp only
      constructor
      · intro hcount htorn
        obtain ⟨line, hread, hfew⟩ := htorn.stop
        rw [hstop] at hread
        obtain rfl := Option.some.inj hread
        omega
      · intro hwhole
        by_contra hfew
        exact hwhole ⟨hrow, hstart, t, hstop, by omega⟩
    | none =>
      refine iff_of_true hle fun htorn => ?_
      obtain ⟨line, hread, -⟩ := htorn.stop
      rw [hstop] at hread
      cases hread

/-- The span of a node of some text has its bounds in order in any other text, unless the node is
torn there. -/
theorem Node.Fits.lower_le_upper_iff {text : Text} {node : Node} (h : node.Fits text)
    (source : Text) :
    (node.span source).lower ≤ (node.span source).upper ↔ ¬ node.Torn source := by
  have hle := h.row_le
  rw [Node.span, position_eq_ofZeroBased, position_eq_ofZeroBased]
  by_cases hrow : node.startPoint.row = node.stopPoint.row
  · rw [← h.countedColumn_le_iff hrow]
    simp only [Position.le_def, Position.lt_def, Position.ofZeroBased, Ordinal.value_ofZeroBased]
    omega
  · refine iff_of_true ?_ fun htorn => hrow htorn.oneRow
    simp only [Position.le_def, Position.lt_def, Position.ofZeroBased, Ordinal.value_ofZeroBased]
    omega

/-- A node that can be read as a whole is not torn: the text divides at its start. -/
theorem Node.Fits.not_torn_of_text? {text source name : Text} {node : Node} (h : node.Fits text)
    (hname : node.text? source = some name) : ¬ node.Torn source := by
  rintro ⟨hrow, hstart, line, hstop, -⟩
  obtain ⟨hcolumn, hline, -⟩ := h.sameRow hrow
  rw [hline] at hstop
  obtain ⟨u, v, hsource, hu, -⟩ := byteSlice?_eq_some_iff.1 hstop
  obtain ⟨w, x, hsource', hw, -⟩ := byteSlice?_eq_some_iff.1 hname
  have hu' : u <+: source := ⟨_, hsource.symm⟩
  have hw' : w <+: source := ⟨_, hsource'.symm⟩
  obtain ⟨before, rfl⟩ := List.prefix_of_prefix_length_le hu' hw'
    (length_le_of_byteSize_le hu' hw' (by omega))
  have hread : byteSlice? source (node.startByte - node.startPoint.column) node.startByte =
      some before :=
    byteSlice?_eq_some_iff.2 ⟨u, name ++ x, by rw [hsource', List.append_assoc], hu, hw⟩
  rw [hstart] at hread
  cases hread

/-- Names are replaced only where they can be read, so what is found at a torn node is an item to
annotate. -/
theorem annotate_of_torn {text source : Text} {refactorings : List Refactoring} {tree : Tree}
    {e : Edit} (hfits : tree.label.Fits text) (htorn : tree.label.Torn source)
    (h : Pass.firstOf (refactorings.map (Refactoring.pass source)) tree = some e) :
    ∃ item name inserted placement, .annotate item name inserted placement ∈ refactorings ∧
      Pass.annotate source item name inserted placement tree = some e := by
  obtain ⟨pass, hpass, hanswer⟩ := List.exists_of_findSome?_eq_some h
  obtain ⟨r, hr, rfl⟩ := List.mem_map.1 hpass
  cases r with
  | rename old new =>
    exact absurd htorn (hfits.not_torn_of_text? (rename_eq_some_iff.1 hanswer).2.1)
  | annotate item name inserted placement => exact ⟨item, name, inserted, placement, hr, hanswer⟩

variable {σ ε : Type}

/-- A strict reprint that succeeds, with the tree of one text, passes that read a second and a
third one to reprint: the spans found are proper exactly if no match is torn, only items to annotate
can be, and if none is, the spans lie one after the other and the output is the text edited by
offsets. -/
theorem strict_outcome_of_foreign_text {text target out : Text} {tree : Tree}
    (hfits : Fits text tree) (source : Text) (refactorings : List Refactoring) (state : σ)
    (htarget : target ≠ [])
    (hout : (Settings.strict.reprint? (joined (refactorings.map (Refactoring.pass source)) :
      Visitor Node σ ε) tree target state).outcome = .ok out) :
    ∃ (passes : List Pass) (matched : List (Tree × Edit)) (found : List Edit),
      passes = refactorings.map (Refactoring.pass source) ∧
      matched = outermost (Pass.firstOf passes) tree ∧ found = matched.map Prod.snd ∧
      (walk (joined passes : Visitor Node σ ε) tree state).result = .ok found ∧
      ((∀ e ∈ found, e.span.lower ≤ e.span.upper) ↔
        ∀ m ∈ matched, ¬ m.1.label.Torn source) ∧
      (∀ m ∈ matched, m.1.label.Torn source → ∃ item name inserted placement,
        .annotate item name inserted placement ∈ refactorings ∧
          Pass.annotate source item name inserted placement m.1 = some m.2) ∧
      ((∀ m ∈ matched, ¬ m.1.label.Torn source) →
        (Edit.sort found).IsChain (fun a b => a.span.upper ≤ b.span.lower) ∧
        ∃ ranges : List (RangeEdit Char),
          Edit.sort found = ranges.map (RangeEdit.toEdit target) ∧
          Ascending 0 target.length ranges ∧
          out = applyFrom target 0 ranges ∧
          KeepsOutside ranges target out) := by
  let passes := refactorings.map (Refactoring.pass source)
  let matched := outermost (Pass.firstOf passes) tree
  have hwalk : (walk (joined passes : Visitor Node σ ε) tree state).result =
      .ok (matched.map Prod.snd) := by
    rw [joined_eq_ofAnswer, result_walk_ofAnswer]
  obtain ⟨found, hfound, hcheck, rfl⟩ := (outcome_reprint?_eq_ok_iff htarget).1 hout
  obtain rfl : matched.map Prod.snd = found := Except.ok.inj (hwalk.symm.trans hfound)
  have hnode : ∀ m ∈ matched, m.1.label.Fits text := fun m hm =>
    hfits.node _ (mem_outermost hm).1
  have hproper : (∀ e ∈ matched.map Prod.snd, e.span.lower ≤ e.span.upper) ↔
      ∀ m ∈ matched, ¬ m.1.label.Torn source := by
    rw [List.forall_mem_map]
    refine forall₂_congr fun m hm => ?_
    rw [span_of_firstOf (mem_outermost hm).2]
    exact (hnode m hm).lower_le_upper_iff source
  refine ⟨passes, matched, _, rfl, rfl, rfl, hwalk, hproper, ?_, ?_⟩
  · exact fun m hm htorn => annotate_of_torn (hnode m hm) htorn (mem_outermost hm).2
  · intro hwhole
    obtain ⟨ranges, hranges, hascending⟩ := exists_ranges_of_check (hproper.2 hwhole) hcheck
    have hsplice : splice (Edit.sort (matched.map Prod.snd)) target =
        applyFrom target 0 ranges := by
      rw [hranges, splice_toEdit target hascending]
    refine ⟨?_, ranges, hranges, hascending, hsplice, ?_⟩
    · rw [hranges]
      exact hascending.inOrder.isChain
    · rw [hsplice]
      exact keepsOutside_applyFrom hascending

def declarationText (name : Char) : Text := ['s', 't', 'r', 'u', 'c', 't', ' ', name, ';']

/-- Three declarations on one line. -/
def declarationsText : Text :=
  declarationText 'A' ++ ' ' :: declarationText 'B' ++ ' ' :: declarationText 'C' ++ ['\n']

def declarationAt (byte : Nat) : Tree :=
  .node ⟨"struct_item", none, byte, byte + 9, ⟨0, byte⟩, ⟨0, byte + 9⟩, .sound⟩
    [.node ⟨"struct", none, byte, byte + 6, ⟨0, byte⟩, ⟨0, byte + 6⟩, .sound⟩ [],
      .node ⟨"type_identifier", some "name", byte + 7, byte + 8, ⟨0, byte + 7⟩, ⟨0, byte + 8⟩,
        .sound⟩ [],
      .node ⟨";", none, byte + 8, byte + 9, ⟨0, byte + 8⟩, ⟨0, byte + 9⟩, .sound⟩ []]

def declarations : Tree :=
  .node ⟨"source_file", none, 0, 30, ⟨0, 0⟩, ⟨1, 0⟩, .sound⟩
    [declarationAt 0, declarationAt 10, declarationAt 20]

/-- Both ends of the second declaration cut a character of this text, so both are counted in
bytes. -/
def illegibleText : Text :=
  ['a', '😀', '😀', '😀', '😀', 'B', '€', '\n']

theorem strict_outcome_of_illegible_text :
    ∃ (out : Text) (ranges : List (RangeEdit Char)),
      out = declarationText 'A' ++ ' ' :: 'X' :: declarationText 'B' ++ ' ' ::
        declarationText 'C' ++ ['\n'] ∧
      (Settings.strict.reprint? (joined
        [.annotate illegibleText "struct_item" ['B'] ['X'] .before] : Visitor Node Unit Empty)
        declarations declarationsText ()).outcome = .ok out ∧
      Ascending 0 declarationsText.length ranges ∧ out = applyFrom declarationsText 0 ranges ∧
      KeepsOutside ranges declarationsText out := by
  have hfits : Fits declarationsText declarations := by decide
  have hout : (Settings.strict.reprint? (joined
      [.annotate illegibleText "struct_item" ['B'] ['X'] .before] : Visitor Node Unit Empty)
      declarations declarationsText ()).outcome = .ok (declarationText 'A' ++ ' ' :: 'X' ::
        declarationText 'B' ++ ' ' :: declarationText 'C' ++ ['\n']) := by
    rw [outcome_reprint?_eq_ok_iff (by decide)]
    refine ⟨[⟨.before, ['X'], .ofZeroBased 0 10, .ofZeroBased 0 19⟩], ?_, ?_, ?_⟩
    · rw [joined_eq_ofAnswer]
      exact result_walk_ofAnswer _ declarations ()
    · rw [Edit.sort_eq_self (by decide)]
      decide
    · rw [Edit.sort_eq_self (by decide)]
      decide
  obtain ⟨_, _, _, rfl, rfl, rfl, -, hproper, -, hedited⟩ :=
    strict_outcome_of_foreign_text hfits illegibleText
      [.annotate "struct_item" ['B'] ['X'] .before] () (by decide) hout
  obtain ⟨-, ranges, -, hascending, happly, hkeeps⟩ := hedited (hproper.1 (by decide))
  exact ⟨_, ranges, rfl, hout, hascending, happly, hkeeps⟩

/-- The second declaration of this text starts within a character and stops after one. -/
def tornText : Text :=
  ['a', '😀', '😀', '😀', '😀', 'B', ';', ' '] ++ declarationText 'C' ++ ['\n']

def tornPasses : List Pass :=
  [.annotate tornText "struct_item" ['B'] ['X'] .before, .rename tornText ['C'] ['D']]

/-- A strict reprint accepts a span that stops before it starts. The name is then not replaced
where it stands, but inserted after the end of the text. -/
theorem strict_accepts_torn_match :
    ∃ (found : List Edit) (out : Text),
      Fits declarationsText declarations ∧
      (walk (joined tornPasses : Visitor Node Unit Empty) declarations ()).result = .ok found ∧
      (Settings.strict.reprint? (joined tornPasses : Visitor Node Unit Empty) declarations tornText
        ()).outcome = .ok out ∧
      out = ['a', '😀', '😀', '😀', '😀', 'B', ';', ' ', 's', 't', 'X', 'r', 'u', 'c', 't', ' ',
        'C', ';', '\n', 'D'] ∧
      (∃ e ∈ found, e.span.upper < e.span.lower) ∧
      ¬ ∃ ranges : List (RangeEdit Char),
        Edit.sort found = ranges.map (RangeEdit.toEdit tornText) ∧
          Ascending 0 tornText.length ranges := by
  let found : List Edit :=
    [⟨.before, ['X'], .ofZeroBased 0 10, .ofZeroBased 0 7⟩,
      ⟨.replace, ['D'], .ofZeroBased 0 15, .ofZeroBased 0 16⟩]
  have hfound : (walk (joined tornPasses : Visitor Node Unit Empty) declarations ()).result =
      .ok found := by
    rw [joined_eq_ofAnswer]
    exact result_walk_ofAnswer _ declarations ()
  have hsort : Edit.sort found = found := Edit.sort_eq_self (by decide)
  refine ⟨found, _, by decide, hfound, ?_, rfl, by decide, ?_⟩
  · rw [outcome_reprint?_eq_ok_iff (by decide)]
    refine ⟨found, hfound, ?_, ?_⟩
    · rw [hsort]
      decide
    · rw [hsort]
      decide
  · rintro ⟨ranges, hranges, hascending⟩
    have hinverted : ∃ e ∈ Edit.sort found, ¬ e.span.lower ≤ e.span.upper := by
      rw [hsort]
      decide
    obtain ⟨e, he, hspan⟩ := hinverted
    rw [hranges] at he
    exact hspan (hascending.inOrder.lower_le he).2

end Retouch.Parse
