import Labeling.Proofs.Text.Bytes
import Labeling.Reference.Template
import Mathlib.Data.List.DropRight

/-!
# Scanning a template

References are found in the bytes of a template. At each dollar sign the scan reads on as long as
the bytes may belong to a reference, goes back over the dots at the end, and goes on from there; it
finds the places where references start and stop. It comes to an end, since it never goes back
behind the byte after the dollar sign, it reads no byte behind the last one, and it finds the
references that cutting the template into pieces gives (`scan_eq`).
-/
namespace Labeling.Template

open Text (encoded byteIs IsAscii isAscii_beq exists_bytes encoded_append)

/-! ## Cutting into pieces -/

/-- Leaving out some characters first is beginning behind them. -/
theorem piecesFrom_eq_drop (skip : Nat) (text : List Char) :
    piecesFrom skip text = piecesFrom 0 (text.drop skip) := by
  induction text generalizing skip with
  | nil => cases skip <;> rfl
  | cons first rest hypothesis =>
    cases skip with
    | zero => rfl
    | succ skip => rw [piecesFrom, hypothesis, List.drop_succ_cons]

/-- A dollar sign begins a reference if a name follows it. -/
theorem piecesFrom_dollar (rest : List Char) :
    piecesFrom 0 ('$' :: rest) =
      if ((referenceName rest).head?.map startsName).getD false then
        .reference ('$' :: referenceName rest) ::
          piecesFrom 0 (rest.drop (referenceName rest).length)
      else .plain '$' :: piecesFrom 0 rest := by
  rw [← piecesFrom_eq_drop]
  rfl

/-- A text is cut into pieces from its front: plain characters, dollar signs without a name, and
references. What holds of each of these, given that it holds of what is behind, holds of every
text. -/
theorem piecesFrom_induction {motive : List Char → List Piece → Prop} (nil : motive [] [])
    (other : ∀ first rest, first ≠ '$' → motive rest (piecesFrom 0 rest) →
      motive (first :: rest) (.plain first :: piecesFrom 0 rest))
    (bare : ∀ rest, ((referenceName rest).head?.map startsName).getD false = false →
      motive rest (piecesFrom 0 rest) → motive ('$' :: rest) (.plain '$' :: piecesFrom 0 rest))
    (reference : ∀ rest, ((referenceName rest).head?.map startsName).getD false = true →
      let behind := rest.drop (referenceName rest).length
      motive behind (piecesFrom 0 behind) →
        motive ('$' :: rest) (.reference ('$' :: referenceName rest) :: piecesFrom 0 behind))
    (text : List Char) : motive text (piecesFrom 0 text) := by
  induction size : text.length using Nat.strong_induction_on generalizing text with
  | _ _ hypothesis =>
    cases text with
    | nil => exact nil
    | cons first rest =>
      have shorter {text : List Char} (few : text.length ≤ rest.length) :=
        hypothesis text.length (size ▸ Nat.lt_succ_of_le few) text rfl
      by_cases dollar : first = '$'
      · subst dollar
        have few : (rest.drop (referenceName rest).length).length ≤ rest.length :=
          (List.drop_sublist _ rest).length_le
        rw [piecesFrom_dollar]
        cases named : ((referenceName rest).head?.map startsName).getD false with
        | true => exact reference rest named (shorter few)
        | false => exact bare rest named (shorter (Nat.le_refl _))
      · rw [piecesFrom, if_neg dollar]
        exact other first rest dollar (shorter (Nat.le_refl _))

/-- A reference behind a dollar sign begins what follows it. -/
theorem prefix_of_referenceName (text : List Char) : referenceName text <+: text :=
  (List.rdropWhile_prefix (· == '.') _).trans (List.takeWhile_prefix inReference)

/-- All characters of a reference are such characters. -/
theorem inReference_of_mem {text : List Char} {character : Char}
    (member : character ∈ referenceName text) : inReference character = true :=
  List.mem_takeWhile_imp ((List.rdropWhile_prefix (· == '.') _).subset member)

/-- The characters that may follow the dollar sign take one byte. -/
theorem isAscii_startsName : IsAscii startsName :=
  Text.isAscii_isAlpha.or (isAscii_beq (by decide))

/-- The characters of references take one byte. -/
theorem isAscii_inReference : IsAscii inReference :=
  (((((Text.isAscii_isAlpha.or Text.isAscii_isDigit).or (isAscii_beq (by decide))).or
    (isAscii_beq (by decide))).or (isAscii_beq (by decide))).or (isAscii_beq (by decide))).or
      (isAscii_beq (by decide))

/-! ## Scanning -/

/-- Where the bytes of a reference end that are read from a place on. -/
def reachFrom (bytes : List UInt8) (place : Nat) : Nat :=
  if inside : place < bytes.length then
    if byteIs inReference bytes[place] then reachFrom bytes (place + 1) else place
  else place
termination_by bytes.length - place

/-- Reading on does not leave the bytes. -/
theorem reachFrom_le (bytes : List UInt8) {place : Nat} (inside : place ≤ bytes.length) :
    reachFrom bytes place ≤ bytes.length := by
  induction place using reachFrom.induct bytes with
  | case1 place before isIn hypothesis =>
    rw [reachFrom, dif_pos before, if_pos isIn]
    exact hypothesis before
  | case2 place before isOut =>
    rw [reachFrom, dif_pos before, if_neg isOut]
    exact inside
  | case3 place behind =>
    rw [reachFrom, dif_neg behind]
    exact inside

/-- The end of a reference without the dots before it, but not before its start. -/
def withoutDots (bytes : List UInt8) (start : Nat) : (stop : Nat) → stop ≤ bytes.length → Nat
  | 0, _ => 0
  | stop + 1, inside =>
    if start < stop + 1 && byteIs (· == '.') bytes[stop] then
      withoutDots bytes start stop (Nat.le_of_succ_le inside)
    else stop + 1

/-- Going back over dots does not go on. -/
theorem withoutDots_le (bytes : List UInt8) (start : Nat) {stop : Nat}
    (inside : stop ≤ bytes.length) : withoutDots bytes start stop inside ≤ bytes.length := by
  induction stop with
  | zero => exact inside
  | succ stop hypothesis =>
    rw [withoutDots]
    split_ifs
    · exact hypothesis (Nat.le_of_succ_le inside)
    · exact inside

/-- Whether a name begins where a reference starts behind its dollar sign. -/
def isNamed (bytes : List UInt8) (start stop : Nat) (inside : stop ≤ bytes.length) : Bool :=
  if before : start < stop then
    have here : start < bytes.length := Nat.lt_of_lt_of_le before inside
    byteIs startsName bytes[start]
  else false

/-- The ranges of the references in some bytes, from a place on: the places where they start and
where they end. -/
def scanFrom (bytes : List UInt8) (place : Nat) : List (Nat × Nat) :=
  if inside : place < bytes.length then
    if byteIs (· == '$') bytes[place] then
      let stop := withoutDots bytes (place + 1) (reachFrom bytes (place + 1))
        (reachFrom_le bytes inside)
      let others := scanFrom bytes (max stop (place + 1))
      if isNamed bytes (place + 1) stop (withoutDots_le bytes _ _) then (place, stop) :: others
      else others
    else scanFrom bytes (place + 1)
  else []
termination_by bytes.length - place

/-- The ranges of the references in a text. -/
def scan (template : String) : List (Nat × Nat) := scanFrom template.toByteArray.data.toList 0

/-- The ranges of the references among some pieces, the first of which starts at a place. -/
def spans : Nat → List Piece → List (Nat × Nat)
  | _, [] => []
  | place, .plain character :: pieces => spans (place + character.utf8Size) pieces
  | place, .reference text :: pieces =>
    (place, place + String.utf8Len text) :: spans (place + String.utf8Len text) pieces

/-! ## What is scanned -/

variable {front : List UInt8}

/-- The bytes of a reference are read up to the first character that is in none. -/
theorem reachFrom_encoded (front : List UInt8) (text : List Char) :
    reachFrom (front ++ encoded text) front.length =
      front.length + (text.takeWhile inReference).length := by
  induction text generalizing front with
  | nil =>
    rw [reachFrom, dif_neg (by simp [encoded])]
    rfl
  | cons first rest hypothesis =>
    obtain ⟨byte, more, bytes, looks⟩ := exists_bytes first
    obtain ⟨same, single, -⟩ := looks inReference isAscii_inReference
    have inside : front.length < (front ++ encoded (first :: rest)).length := by
      simp [encoded, bytes]
    rw [reachFrom, dif_pos inside, Text.getElem_append_encoded inside isAscii_inReference]
    cases isIn : inReference first with
    | false => simp [isIn]
    | true =>
      have grown : front ++ encoded (first :: rest) = front ++ [byte] ++ encoded rest := by
        simp [encoded, bytes, single isIn]
      have next := hypothesis (front ++ [byte])
      rw [← grown, List.length_append, List.length_singleton] at next
      rw [if_pos rfl, next, List.takeWhile_cons_of_pos isIn, List.length_cons]
      omega

/-- Each character of a reference takes one byte. -/
theorem exists_encoded_of_inReference {character : Char} (inside : inReference character = true) :
    ∃ byte, String.utf8EncodeChar character = [byte] ∧
      ∀ test, IsAscii test → byteIs test byte = test character := by
  obtain ⟨byte, more, bytes, looks⟩ := exists_bytes character
  have single := (looks inReference isAscii_inReference).2.1 inside
  exact ⟨byte, by rw [bytes, single], fun test ascii => (looks test ascii).1⟩

/-- A reference takes as many bytes as it has characters. -/
theorem length_encoded_of_inReference {name : List Char}
    (inside : ∀ character ∈ name, inReference character = true) :
    (encoded name).length = name.length := by
  induction name with
  | nil => rfl
  | cons first rest hypothesis =>
    obtain ⟨byte, bytes, -⟩ := exists_encoded_of_inReference (inside first List.mem_cons_self)
    have others := hypothesis fun character member =>
      inside character (List.mem_cons_of_mem first member)
    rw [encoded, List.flatMap_cons, bytes, List.length_append, List.length_singleton,
      List.length_cons, ← others, encoded, Nat.add_comm]

/-- Nothing is taken off before the start. -/
theorem withoutDots_self (bytes : List UInt8) (start : Nat) (inside : start ≤ bytes.length) :
    withoutDots bytes start start inside = start := by
  cases start with
  | zero => rfl
  | succ start => simp [withoutDots]

/-- The dots at the end of a reference are taken off. -/
theorem withoutDots_encoded {bytes front back : List UInt8} {name : List Char} {stop : Nat}
    (letters : ∀ character ∈ name, inReference character = true)
    (split : bytes = front ++ encoded name ++ back) (ends : stop = front.length + name.length)
    (inside : stop ≤ bytes.length) :
    withoutDots bytes front.length stop inside =
      front.length + (name.rdropWhile (· == '.')).length := by
  induction name using List.reverseRecOn generalizing back stop with
  | nil =>
    subst ends
    exact withoutDots_self bytes _ inside
  | append_singleton name last hypothesis =>
    have others : ∀ character ∈ name, inReference character = true := fun character member =>
      letters character (List.mem_append_left [last] member)
    obtain ⟨byte, single, looks⟩ := exists_encoded_of_inReference
      (letters last (List.mem_append_right name (List.mem_singleton_self last)))
    have parted : bytes = front ++ encoded name ++ byte :: back := by
      rw [split]
      simp [encoded, single]
    have place : (front ++ encoded name).length = front.length + name.length := by
      rw [List.length_append, length_encoded_of_inReference others]
    rw [List.length_append, List.length_singleton, ← Nat.add_assoc] at ends
    subst ends
    have before : front.length < front.length + name.length + 1 := by omega
    have here : bytes[front.length + name.length] = byte := by
      simp [parted, ← place]
    rw [withoutDots, here, looks _ (isAscii_beq (by decide)), decide_eq_true before, Bool.true_and]
    cases dot : last == '.' with
    | true =>
      rw [if_pos rfl, hypothesis others parted rfl, List.rdropWhile_concat_pos (· == '.') _ _ dot]
    | false =>
      rw [if_neg Bool.false_ne_true, List.rdropWhile_concat_neg (· == '.') _ _ (by simpa using dot),
        List.length_append, List.length_singleton, Nat.add_assoc]

/-- The reference behind some bytes ends where its dots at the end begin. -/
theorem withoutDots_reachFrom {bytes : List UInt8} {text : List Char}
    (split : bytes = front ++ encoded text)
    (inside : reachFrom bytes front.length ≤ bytes.length) :
    withoutDots bytes front.length (reachFrom bytes front.length) inside =
      front.length + (referenceName text).length := by
  have taken : bytes =
      front ++ encoded (text.takeWhile inReference) ++ encoded (text.dropWhile inReference) := by
    rw [split, List.append_assoc, ← encoded_append, List.takeWhile_append_dropWhile]
  have reached : reachFrom bytes front.length =
      front.length + (text.takeWhile inReference).length := by
    rw [split, reachFrom_encoded]
  exact withoutDots_encoded (fun character member => List.mem_takeWhile_imp member) taken reached
    inside

/-- Bytes that are no dollar signs are passed over. -/
theorem scanFrom_append {middle : List UInt8}
    (plain : ∀ byte ∈ middle, byteIs (· == '$') byte = false) (front back : List UInt8) :
    scanFrom (front ++ middle ++ back) front.length =
      scanFrom (front ++ middle ++ back) (front.length + middle.length) := by
  induction middle generalizing front with
  | nil => rfl
  | cons byte rest hypothesis =>
    have grown : front ++ byte :: rest ++ back = front ++ [byte] ++ rest ++ back := by simp
    have next := hypothesis (fun other member => plain other (List.mem_cons_of_mem byte member))
      (front ++ [byte])
    rw [← grown, List.length_append, List.length_singleton] at next
    have inside : front.length < (front ++ byte :: rest ++ back).length := by
      simp only [List.length_append, List.length_cons]
      omega
    have here : (front ++ byte :: rest ++ back)[front.length] = byte := by simp
    rw [scanFrom, dif_pos inside, here, plain byte List.mem_cons_self, if_neg Bool.false_ne_true,
      next, List.length_cons, Nat.add_assoc, Nat.add_comm 1]

/-- A reference takes as many places as its characters and its dollar sign. -/
theorem utf8Len_reference (text : List Char) :
    String.utf8Len ('$' :: referenceName text) = (referenceName text).length + 1 := by
  rw [String.utf8Len_cons, ← Text.length_encoded,
    length_encoded_of_inReference fun character member => inReference_of_mem member]
  rfl

/-- What may follow a dollar sign directly is seen on the bytes. -/
theorem isNamed_encoded {bytes : List UInt8} {text : List Char} {stop : Nat}
    (split : bytes = front ++ encoded text)
    (ends : stop = front.length + (referenceName text).length) (inside : stop ≤ bytes.length) :
    isNamed bytes front.length stop inside =
      ((referenceName text).head?.map startsName).getD false := by
  cases begins : referenceName text with
  | nil =>
    rw [begins, List.length_nil, Nat.add_zero] at ends
    rw [isNamed, dif_neg (Nat.not_lt.mpr ends.le)]
    rfl
  | cons first name =>
    obtain ⟨rest, whole⟩ := prefix_of_referenceName text
    rw [begins, List.cons_append] at whole
    rw [begins, List.length_cons] at ends
    subst split whole
    have before : front.length < stop := by omega
    rw [isNamed, dif_pos before, Text.getElem_append_encoded _ isAscii_startsName]
    rfl

/-- A dollar sign is one byte. -/
theorem encoded_dollar (text : List Char) : encoded ('$' :: text) = 36 :: encoded text := rfl

/-- At a dollar sign the scan goes on behind the reference, which counts if it has a name. -/
theorem scanFrom_dollar (front : List UInt8) (text : List Char) :
    let bytes := front ++ encoded ('$' :: text)
    let stop := front.length + 1 + (referenceName text).length
    scanFrom bytes front.length =
      if ((referenceName text).head?.map startsName).getD false then
        (front.length, stop) :: scanFrom bytes stop
      else scanFrom bytes stop := by
  intro bytes stop
  have split : bytes = front ++ [36] ++ encoded text := by
    rw [List.append_assoc]
    rfl
  have place : (front ++ [36]).length = front.length + 1 := List.length_append
  have inside : front.length < bytes.length := by
    rw [split, List.length_append, place]
    omega
  have ends : withoutDots bytes (front.length + 1) (reachFrom bytes (front.length + 1))
      (reachFrom_le bytes inside) = stop := by
    simp only [← place]
    rw [withoutDots_reachFrom split, place]
  have reached : stop ≤ bytes.length := ends ▸ withoutDots_le bytes _ _
  have named : isNamed bytes (front.length + 1) stop reached =
      ((referenceName text).head?.map startsName).getD false := by
    simp only [← place]
    exact isNamed_encoded split (by rw [place]) reached
  have behind : max stop (front.length + 1) = stop := by omega
  rw [scanFrom, dif_pos inside, Text.getElem_append_encoded inside (isAscii_beq (by decide)),
    if_pos (beq_self_eq_true '$')]
  simp only [ends, behind, named]

/-- A text behind a dollar sign is read as the reference in it and what follows. -/
theorem append_encoded_dollar (front : List UInt8) (rest : List Char) :
    front ++ encoded ('$' :: rest) = front ++ [36] ++ encoded (referenceName rest) ++
      encoded (rest.drop (referenceName rest).length) := by
  have cut := List.prefix_iff_eq_append.mp (prefix_of_referenceName rest)
  conv => lhs; rw [← cut, encoded_dollar, encoded_append]
  simp

/-- The bytes of a reference and of its dollar sign end one place behind its characters. -/
theorem length_append_referenceName (front : List UInt8) (rest : List Char) :
    (front ++ [36] ++ encoded (referenceName rest)).length =
      front.length + 1 + (referenceName rest).length := by
  rw [List.length_append, List.length_append, List.length_singleton,
    length_encoded_of_inReference fun character member => inReference_of_mem member]

/-- There is no dollar sign among the bytes of a reference. -/
theorem byteIs_dollar_of_mem {rest : List Char} {byte : UInt8}
    (member : byte ∈ encoded (referenceName rest)) : byteIs (· == '$') byte = false := by
  obtain ⟨character, named, member⟩ := List.mem_flatMap.mp member
  refine Text.byteIs_of_mem_utf8EncodeChar (isAscii_beq (by decide)) ?_ member
  rw [← Bool.not_eq_true, beq_iff_eq]
  rintro rfl
  exact Bool.false_ne_true (inReference_of_mem named)

/-- The bytes of a text are scanned as its characters are cut into pieces. -/
theorem scanFrom_encoded (front : List UInt8) (text : List Char) :
    scanFrom (front ++ encoded text) front.length = spans front.length (piecesFrom 0 text) := by
  induction text using piecesFrom_induction generalizing front with
  | nil =>
    rw [scanFrom, dif_neg (by simp [encoded])]
    rfl
  | other first rest different hypothesis =>
    have plain : ∀ byte ∈ String.utf8EncodeChar first, byteIs (· == '$') byte = false :=
      fun byte member => Text.byteIs_of_mem_utf8EncodeChar (isAscii_beq (by decide))
        (beq_eq_false_iff_ne.mpr different) member
    have split : front ++ encoded (first :: rest) =
        front ++ String.utf8EncodeChar first ++ encoded rest := by
      rw [List.append_assoc]
      rfl
    rw [spans, split, scanFrom_append plain, ← List.length_append, hypothesis, List.length_append,
      String.length_utf8EncodeChar]
  | bare rest nameless hypothesis =>
    -- The scan leaves out the characters behind the sign, the cutting goes through them.
    have plain : ∀ byte ∈ encoded (referenceName rest), byteIs (· == '$') byte = false :=
      fun byte member => byteIs_dollar_of_mem member
    have skipped := scanFrom_append plain (front ++ [36])
      (encoded (rest.drop (referenceName rest).length))
    have split : front ++ encoded ('$' :: rest) = front ++ [36] ++ encoded rest := by
      rw [encoded_dollar, List.append_assoc]
      rfl
    have next := hypothesis (front ++ [36])
    rw [← split] at next
    rw [← append_encoded_dollar, ← List.length_append, length_append_referenceName, next,
      List.length_append] at skipped
    rw [scanFrom_dollar, nameless, if_neg Bool.false_ne_true, ← skipped]
    rfl
  | reference rest named behind hypothesis =>
    have next := hypothesis (front ++ [36] ++ encoded (referenceName rest))
    have place : front.length + 1 + (referenceName rest).length =
        front.length + ((referenceName rest).length + 1) := by omega
    rw [← append_encoded_dollar, length_append_referenceName] at next
    rw [scanFrom_dollar, if_pos named, next, spans, utf8Len_reference, place]

/-- The ranges found in a template are those of the references among its pieces. -/
theorem scan_eq (template : String) : scan template = spans 0 (pieces template.toList) := by
  rw [scan, Text.toList_toByteArray]
  exact scanFrom_encoded [] template.toList

end Labeling.Template
