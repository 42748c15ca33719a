import Labeling.Proofs.Reference.Scanning

/-!
# Substituting references

The value of a template is put together from its text: what stands between the ranges that the scan
finds stays, and each range gives way to the text of the value that its reference names. A text
cannot be cut inside of a character; the ranges never start or stop there (`isRange_of_mem_scan`),
so that putting the template together does not fail (`substitute?_eq`). A reference to nothing stays
as it is, and a template that names nothing else is left alone (`render_eq_self`).
-/
namespace Labeling.Template

variable {template : String} {data : Json}

/-! ## Pieces -/

/-- The text of some pieces in a template. -/
def written (pieces : List Piece) : List Char := pieces.flatMap Piece.written

/-- The text of pieces begins with that of the first one. -/
@[simp]
theorem written_cons (piece : Piece) (pieces : List Piece) :
    written (piece :: pieces) = piece.written ++ written pieces := rfl

/-- The text of pieces in a row is that of the first ones and then that of the other ones. -/
@[simp]
theorem written_append (first second : List Piece) :
    written (first ++ second) = written first ++ written second := List.flatMap_append

/-- Cutting a text into pieces leaves nothing out. -/
theorem written_piecesFrom (text : List Char) : written (piecesFrom 0 text) = text := by
  induction text using piecesFrom_induction with
  | nil => rfl
  | other first rest different hypothesis => exact congrArg (first :: ·) hypothesis
  | bare rest nameless hypothesis => exact congrArg ('$' :: ·) hypothesis
  | reference rest named behind hypothesis =>
    have cut := List.prefix_iff_eq_append.mp (prefix_of_referenceName rest)
    rw [written_cons, hypothesis, Piece.written, List.cons_append, cut]

/-- A text of the form of a reference: a dollar sign, a character that a name may begin with, and
no dot at the end. -/
def IsReference (text : List Char) : Prop :=
  ∃ first rest, text = '$' :: first :: rest ∧ startsName first = true ∧
    (first :: rest).getLast? ≠ some '.'

/-- What follows a dollar sign does not end in a dot. -/
theorem getLast?_referenceName (text : List Char) : (referenceName text).getLast? ≠ some '.' := by
  intro ends
  have nonempty := List.ne_nil_of_mem (List.mem_of_getLast? ends)
  have last := List.rdropWhile_last_not (· == '.') (text.takeWhile inReference) nonempty
  rw [List.getLast?_eq_some_getLast nonempty] at ends
  exact last (beq_iff_eq.mpr (Option.some.inj ends))

/-- The references among the pieces of a text have the form of references. -/
theorem isReference_of_mem {text : List Char} {source : List Char}
    (member : .reference text ∈ piecesFrom 0 source) : IsReference text := by
  induction source using piecesFrom_induction with
  | nil => exact nomatch member
  | other first rest different hypothesis =>
    exact hypothesis ((List.mem_cons.mp member).resolve_left nofun)
  | bare rest nameless hypothesis =>
    exact hypothesis ((List.mem_cons.mp member).resolve_left nofun)
  | reference rest named behind hypothesis =>
    rcases List.mem_cons.mp member with here | later
    · cases here
      cases begins : referenceName rest with
      | nil => simp [begins] at named
      | cons first name =>
        refine ⟨first, name, rfl, ?_, begins ▸ getLast?_referenceName rest⟩
        simpa [begins] using named
    · exact hypothesis later

/-! ## Ranges among the pieces -/

/-- The ranges of some pieces in a row are those of the first ones and those behind them. -/
theorem spans_append (place : Nat) (first second : List Piece) :
    spans place (first ++ second) =
      spans place first ++ spans (place + String.utf8Len (written first)) second := by
  induction first generalizing place with
  | nil => rfl
  | cons piece rest hypothesis =>
    rw [List.cons_append, written_cons, String.utf8Len_append, ← Nat.add_assoc]
    cases piece with
    | plain character =>
      rw [spans, hypothesis, spans, Piece.written, String.utf8Len_cons, String.utf8Len_nil,
        Nat.zero_add]
    | reference text => rw [spans, hypothesis, spans, Piece.written, List.cons_append]

/-- A range found is the place of a reference among the pieces. -/
theorem mem_spans_iff {place : Nat} {pieces : List Piece} {range : Nat × Nat} :
    range ∈ spans place pieces ↔ ∃ before text after, pieces = before ++ .reference text :: after ∧
      range.1 = place + String.utf8Len (written before) ∧
        range.2 = range.1 + String.utf8Len text := by
  constructor
  · intro member
    induction pieces generalizing place with
    | nil => exact nomatch member
    | cons piece rest hypothesis =>
      cases piece with
      | plain character =>
        obtain ⟨before, text, after, rfl, starts, stops⟩ := hypothesis member
        refine ⟨.plain character :: before, text, after, rfl, ?_, stops⟩
        rw [starts, written_cons, String.utf8Len_append, ← Nat.add_assoc, Piece.written,
          String.utf8Len_cons, String.utf8Len_nil, Nat.zero_add]
      | reference text =>
        rcases List.mem_cons.mp member with rfl | later
        · exact ⟨[], text, rest, rfl, rfl, rfl⟩
        · obtain ⟨before, other, after, rfl, starts, stops⟩ := hypothesis later
          refine ⟨.reference text :: before, other, after, rfl, ?_, stops⟩
          rw [starts, written_cons, String.utf8Len_append, ← Nat.add_assoc, Piece.written]
  · rintro ⟨before, text, after, rfl, starts, stops⟩
    rw [spans_append, spans, ← starts, ← stops]
    exact List.mem_append_right _ List.mem_cons_self

/-- The ranges found come one behind the other and do not overlap. -/
theorem pairwise_spans (place : Nat) (pieces : List Piece) :
    (spans place pieces).Pairwise fun earlier later => earlier.2 ≤ later.1 := by
  induction pieces generalizing place with
  | nil => exact List.Pairwise.nil
  | cons piece rest hypothesis =>
    cases piece with
    | plain character => exact hypothesis _
    | reference text =>
      refine List.pairwise_cons.mpr ⟨fun range member => ?_, hypothesis _⟩
      obtain ⟨before, other, after, -, starts, -⟩ := mem_spans_iff.mp member
      exact starts ▸ Nat.le_add_right _ _

/-! ## Cutting a template -/

/-- The text between two places of a template, if the second one is not before the first one and
both are places where a character begins or the template ends. -/
def slice? (template : String) (start stop : Nat) : Option (List Char) :=
  if start ≤ stop ∧ String.Pos.Raw.IsValid template ⟨start⟩ ∧
      String.Pos.Raw.IsValid template ⟨stop⟩ then
    some (String.Pos.Raw.extract template ⟨start⟩ ⟨stop⟩).toList
  else none

/-- A template can be cut behind any of its characters. -/
theorem isValid_utf8Len {front back : List Char} (split : template.toList = front ++ back) :
    String.Pos.Raw.IsValid template ⟨String.utf8Len front⟩ := by
  refine String.Pos.Raw.isValid_iff_exists_append.mpr
    ⟨String.ofList front, String.ofList back, ?_, (String.rawEndPos_ofList front).symm⟩
  rw [← String.ofList_append, ← split, String.ofList_toList]

/-- Cutting at the ends of a part gives the part. -/
theorem slice?_append {front middle back : List Char}
    (split : template.toList = front ++ middle ++ back) :
    slice? template (String.utf8Len front) (String.utf8Len (front ++ middle)) = some middle := by
  have starts := isValid_utf8Len (split.trans (List.append_assoc front middle back))
  have stops := isValid_utf8Len split
  have whole : template = String.ofList (front ++ middle ++ back) := by
    rw [← split, String.ofList_toList]
  rw [String.utf8Len_append] at stops ⊢
  rw [slice?, if_pos ⟨Nat.le_add_right _ _, starts, stops⟩, whole, String.extract_of_valid,
    String.toList_ofList]

/-- A template is what is before a reference in it, the reference and what is behind it. -/
theorem toList_eq_of_pieces {before after : List Piece} {text : List Char}
    (split : pieces template.toList = before ++ .reference text :: after) :
    template.toList = written before ++ text ++ written after := by
  conv => lhs; rw [← written_piecesFrom template.toList, ← pieces, split]
  rw [written_append, written_cons, Piece.written, List.append_assoc]

/-- The references found in a template are cut out of it at their ranges. -/
theorem mem_scan_iff {range : Nat × Nat} :
    range ∈ scan template ↔ ∃ before text after,
      pieces template.toList = before ++ .reference text :: after ∧
        range = (String.utf8Len (written before), String.utf8Len (written before ++ text)) := by
  rw [scan_eq, mem_spans_iff]
  simp only [Nat.zero_add, String.utf8Len_append, Prod.ext_iff]
  grind

/-- What a range in a template is that holds a reference. -/
structure IsRange (template : String) (range : Nat × Nat) : Prop where
  /-- The range is not empty. -/
  before : range.1 < range.2
  /-- The range ends in the template. -/
  inside : range.2 ≤ template.utf8ByteSize
  /-- A character begins where the range starts. -/
  starts : String.Pos.Raw.IsValid template ⟨range.1⟩
  /-- A character begins where the range stops, if the template does not end there. -/
  stops : String.Pos.Raw.IsValid template ⟨range.2⟩
  /-- The text in the range has the form of a reference. -/
  reference : ∃ text, slice? template range.1 range.2 = some text ∧ IsReference text

/-- The scan finds ranges of references. -/
theorem isRange_of_mem_scan {range : Nat × Nat} (member : range ∈ scan template) :
    IsRange template range := by
  obtain ⟨before, text, after, split, rfl⟩ := mem_scan_iff.mp member
  have parts := toList_eq_of_pieces split
  have form : IsReference text := isReference_of_mem
    (show .reference text ∈ pieces template.toList from split ▸ List.mem_append_right _
      List.mem_cons_self)
  refine ⟨?_, ?_, isValid_utf8Len (parts.trans (List.append_assoc _ _ _)), isValid_utf8Len parts,
    text, slice?_append parts, form⟩
  · obtain ⟨first, rest, rfl, -⟩ := form
    have sign : 0 < Char.utf8Size '$' := by decide
    simp only [String.utf8Len_append, String.utf8Len_cons]
    omega
  · rw [← String.utf8Len_toList template, parts, String.utf8Len_append _ (written after)]
    exact Nat.le_add_right _ _

/-! ## Putting a template together -/

/-- The rest of a template from a place on, with values in the place of the references in some
ranges. -/
def rebuild? (data : Json) (template : String) (cursor : Nat) :
    List (Nat × Nat) → Option (List Char)
  | [] => slice? template cursor template.utf8ByteSize
  | (start, stop) :: ranges => do
    let before ← slice? template cursor start
    let reference ← slice? template start stop
    let behind ← rebuild? data template stop ranges
    some (before ++ Piece.rendered data (.reference reference) ++ behind)

/-- The value of a template with values in the place of its references. -/
def substitute? (template : String) (data : Json) : Option Json :=
  let ranges := scan template
  let whole := if ranges = [(0, template.utf8ByteSize)] then
    Reference.resolve data template.toList else none
  match whole with
  | some value => some value
  | none => (rebuild? data template 0 ranges).map fun text => .string (String.ofList text)

/-- Putting pieces together gives the text before them and then their texts with values. -/
theorem rebuild?_spans (front middle : List Char) {pieces : List Piece}
    (split : template.toList = front ++ middle ++ written pieces) :
    rebuild? data template (String.utf8Len front)
        (spans (String.utf8Len (front ++ middle)) pieces) =
      some (middle ++ pieces.flatMap (Piece.rendered data)) := by
  induction pieces generalizing front middle with
  | nil =>
    have ends : template.utf8ByteSize = String.utf8Len (front ++ middle) := by
      rw [← String.utf8Len_toList template, split, written, List.flatMap_nil, List.append_nil]
    rw [spans, rebuild?, ends, slice?_append split, List.flatMap_nil, List.append_nil]
  | cons piece rest hypothesis =>
    rw [written_cons] at split
    cases piece with
    | plain character =>
      have next := hypothesis front (middle ++ [character]) (by simpa [Piece.written] using split)
      rw [← List.append_assoc, String.utf8Len_append _ [character]] at next
      simpa [Piece.rendered, spans] using next
    | reference text =>
      have next := hypothesis (front ++ middle ++ text) [] (by simpa [Piece.written] using split)
      have before := slice?_append split
      have reference := slice?_append (split.trans (List.append_assoc _ _ _).symm)
      rw [Piece.written] at reference
      rw [List.append_nil, List.nil_append] at next
      rw [spans, ← String.utf8Len_append, rebuild?, before, reference, next]
      simp [Piece.rendered]

/-- Every piece of a text has a text. -/
theorem written_ne_nil {source : List Char} {piece : Piece} (member : piece ∈ piecesFrom 0 source) :
    piece.written ≠ [] := by
  cases piece with
  | plain character => exact List.cons_ne_nil character []
  | reference text =>
    obtain ⟨first, rest, rfl, -⟩ := isReference_of_mem member
    exact List.cons_ne_nil '$' (first :: rest)

/-- Some of the pieces of a text without a text are none. -/
theorem eq_nil_of_utf8Len {source : List Char} {part : List Piece}
    (among : part ⊆ piecesFrom 0 source) (empty : String.utf8Len (written part) = 0) :
    part = [] :=
  List.eq_nil_iff_forall_not_mem.mpr fun piece member => written_ne_nil (among member)
    (List.flatMap_eq_nil_iff.mp (String.utf8Len_eq_zero.mp empty) piece member)

/-- A template is one single reference if the scan finds its whole range. -/
theorem scan_eq_singleton_iff :
    scan template = [(0, template.utf8ByteSize)] ↔
      pieces template.toList = [.reference template.toList] := by
  constructor
  · intro whole
    obtain ⟨before, text, after, split, range⟩ :=
      mem_scan_iff.mp (whole ▸ List.mem_singleton_self _)
    have parts := toList_eq_of_pieces split
    obtain ⟨starts, stops⟩ := Prod.ext_iff.mp range
    rw [← String.utf8Len_toList template, parts, String.utf8Len_append] at stops
    have front : before = [] :=
      eq_nil_of_utf8Len (split ▸ List.subset_append_left _ _) starts.symm
    have back : after = [] := eq_nil_of_utf8Len
      (split ▸ List.subset_append_of_subset_right before (List.subset_cons_self _ after))
      (Nat.add_eq_left.mp stops)
    subst front back
    have same : template.toList = text := by simpa [written] using parts
    rw [same] at split ⊢
    exact split
  · intro alone
    rw [scan_eq, alone, spans, Nat.zero_add, String.utf8Len_toList, spans]

/-- The value of a template, by what the scan finds. -/
theorem render_eq (template : String) (data : Json) :
    render template data =
      match if scan template = [(0, template.utf8ByteSize)] then
        Reference.resolve data template.toList else none with
      | some value => value
      | none => renderText data (pieces template.toList) := by
  by_cases alone : pieces template.toList = [.reference template.toList]
  · rw [if_pos (scan_eq_singleton_iff.mpr alone)]
    cases named : Reference.resolve data template.toList with
    | none => simp only [render, alone, named]
    | some value => simp only [render, alone, named]
  · rw [if_neg fun whole => alone (scan_eq_singleton_iff.mp whole), render]
    split
    next text single =>
      have parts : template.toList = written [] ++ text ++ written [] := toList_eq_of_pieces single
      have same : template.toList = text := by simpa [written] using parts
      exact absurd (same ▸ single) alone
    next => rfl

/-- Putting a template together from its text never fails and gives its value. -/
theorem substitute?_eq (template : String) (data : Json) :
    substitute? template data = some (render template data) := by
  have together : rebuild? data template 0 (scan template) =
      some ((pieces template.toList).flatMap (Piece.rendered data)) := by
    rw [scan_eq]
    exact rebuild?_spans [] [] (written_piecesFrom template.toList).symm
  rw [substitute?, render_eq, together]
  cases if scan template = [(0, template.utf8ByteSize)] then
    Reference.resolve data template.toList else none with
  | some value => rfl
  | none => rfl

/-! ## Templates that are left alone -/

/-- Whether no reference found in a template names anything but null. -/
def NamesNothing (template : String) (data : Json) : Prop :=
  ∀ range ∈ scan template, ∀ text, slice? template range.1 range.2 = some text →
    ∀ value, Reference.resolve data text = some value → value = .null

/-- Whether a template is one single reference, and that to null. -/
def IsNull (template : String) (data : Json) : Prop :=
  scan template = [(0, template.utf8ByteSize)] ∧
    Reference.resolve data template.toList = some .null

/-- A template names nothing if none of the references among its pieces does. -/
theorem namesNothing_iff :
    NamesNothing template data ↔ ∀ text, .reference text ∈ pieces template.toList →
      ∀ value, Reference.resolve data text = some value → value = .null := by
  constructor
  · intro nothing text member
    obtain ⟨before, after, split⟩ := List.append_of_mem member
    exact nothing _ (mem_scan_iff.mpr ⟨before, text, after, split, rfl⟩) text
      (slice?_append (toList_eq_of_pieces split))
  · rintro nothing range member text cut
    obtain ⟨before, other, after, split, rfl⟩ := mem_scan_iff.mp member
    obtain rfl : other = text :=
      Option.some.inj ((slice?_append (toList_eq_of_pieces split)).symm.trans cut)
    exact nothing other (split ▸ List.mem_append_right _ List.mem_cons_self)

/-- The pieces of a template that names nothing stay as they are. -/
theorem NamesNothing.rendered_eq (nothing : NamesNothing template data) {piece : Piece}
    (member : piece ∈ pieces template.toList) : piece.rendered data = piece.written := by
  cases piece with
  | plain character => rfl
  | reference text =>
    cases named : Reference.resolve data text with
    | none => simp [Piece.rendered, named, Piece.written]
    | some value =>
      rw [namesNothing_iff.mp nothing text member value named] at named
      simp [Piece.rendered, named, Piece.written]

/-- A template that names nothing is left alone, unless it is one single reference to null. -/
theorem NamesNothing.render_eq_self (nothing : NamesNothing template data)
    (other : ¬ IsNull template data) : render template data = .string template := by
  have text : renderText data (pieces template.toList) = .string template := by
    have same : (pieces template.toList).flatMap (Piece.rendered data) = template.toList := by
      conv => rhs; rw [← written_piecesFrom template.toList, ← pieces, written]
      exact List.flatMap_congr fun piece member => nothing.rendered_eq member
    rw [renderText, same, String.ofList_toList]
  rw [render_eq]
  split_ifs with whole
  · cases named : Reference.resolve data template.toList with
    | none => exact text
    | some value =>
      have member : .reference template.toList ∈ pieces template.toList :=
        (scan_eq_singleton_iff.mp whole).symm ▸ List.mem_singleton_self _
      rw [namesNothing_iff.mp nothing _ member value named] at named
      exact absurd ⟨whole, named⟩ other
  · exact text

/-- Only references give way to values. The ranges that the scan finds in a template lie in it,
between characters, one behind the other without an overlap, and hold texts of the form of
references. Putting the template together from these ranges never fails and gives its value, and a
template that names nothing is left alone, unless it is one single reference to null. -/
theorem scan_substitutes (template : String) (data : Json) :
    (∀ range ∈ scan template, IsRange template range) ∧
      (scan template).Pairwise (fun earlier later => earlier.2 ≤ later.1) ∧
      substitute? template data = some (render template data) ∧
      (NamesNothing template data → ¬ IsNull template data →
        render template data = .string template) := by
  refine ⟨fun range => isRange_of_mem_scan, ?_, substitute?_eq template data,
    NamesNothing.render_eq_self⟩
  rw [scan_eq]
  exact pairwise_spans 0 _

/-- Dollar signs, a reference before a full stop and one to null stay, behind a character of three
bytes. -/
theorem render_bareReferences :
    render "€$5$$a.$_b.." (.object [("_b", .null)]) = .string "€$5$$a.$_b.." := by
  have parts : pieces "€$5$$a.$_b..".toList = [.plain '€', .plain '$', .plain '5', .plain '$',
      .reference ['$', 'a'], .plain '.', .reference ['$', '_', 'b'], .plain '.', .plain '.'] := by
    decide
  refine (scan_substitutes _ _).2.2.2 (namesNothing_iff.mpr ?_) ?_
  · intro text member value named
    rw [parts] at member
    obtain rfl | rfl : text = ['$', 'a'] ∨ text = ['$', '_', 'b'] := by simpa using member
    · have missing : Reference.resolve (.object [("_b", .null)]) ['$', 'a'] = none := rfl
      rw [missing] at named
      contradiction
    · exact (Option.some.inj named).symm
  · rintro ⟨whole, -⟩
    rw [scan_eq_singleton_iff, parts] at whole
    exact absurd whole (by simp)

end Labeling.Template
