import Mathlib.Tactic.IntervalCases
import Penguind.Foundation.Replace

/-!
# Blocks of a PEM file

The blocks of a label are found by searching for their markers. Between two markers a text without
hyphens can complete a marker with the hyphens around it.
-/

namespace Penguind.Squawk.Pem

open Foundation

structure PemLib (Byte : Type) where
  isWhitespace : Char → Bool
  encode : List Byte → List Char
  decode : List Char → Except String (List Byte)
  decode_encode (payload : List Byte) : decode (encode payload) = .ok payload
  encode_plain (payload : List Byte) : ∀ c ∈ encode payload, c ≠ '-' ∧ isWhitespace c = false
  whitespace : isWhitespace ' ' ∧ isWhitespace '\n' ∧ isWhitespace '\r'

inductive Label
  | certificate
  | privateKey
  | rsaPrivateKey
  | ecPrivateKey
  deriving DecidableEq

def Label.text : Label → List Char
  | .certificate => "CERTIFICATE".toList
  | .privateKey => "PRIVATE KEY".toList
  | .rsaPrivateKey => "RSA PRIVATE KEY".toList
  | .ecPrivateKey => "EC PRIVATE KEY".toList

def dashes : List Char := "-----".toList

def beginText (label : Label) : List Char := "BEGIN ".toList ++ label.text

def endText (label : Label) : List Char := "END ".toList ++ label.text

def marker (text : List Char) : List Char := dashes ++ (text ++ dashes)

variable {Byte : Type} (L : PemLib Byte)

/-- Each round takes two markers off the rest. -/
def extractFrom (label : Label) : Nat → List Char → Except String (List (List Byte))
  | 0, _ => .ok []
  | rounds + 1, rest =>
    match (find (marker (beginText label)) rest).map Prod.snd with
    | none => .ok []
    | some afterBegin =>
      match find (marker (endText label)) afterBegin with
      | none => .ok []
      | some (body, rest) => do
        let der ← L.decode (body.filter fun c => !L.isWhitespace c)
        let blocks ← extractFrom label rounds rest
        return der :: blocks

def extractBlocks (pem : List Char) (label : Label) : Except String (List (List Byte)) :=
  extractFrom L label (pem.length + 1) pem

structure Block where
  label : Label
  payload : List Byte
  /-- The encoded payload, wrapped. -/
  body : List Char
  /-- The text up to the next block. -/
  gap : List Char
  body_eq : body.filter (fun c => c ≠ '\n' ∧ c ≠ '\r') = L.encode payload
  gap_plain : '-' ∉ gap

structure File where
  before : List Char
  blocks : List (Block L)
  before_plain : '-' ∉ before

variable {L}

def Block.text (b : Block L) : List Char :=
  marker (beginText b.label) ++ (b.body ++ (marker (endText b.label) ++ b.gap))

def File.text (f : File L) : List Char := f.before ++ f.blocks.flatMap Block.text

def payloads (label : Label) (blocks : List (Block L)) : List (List Byte) :=
  (blocks.filter fun b => b.label = label).map Block.payload

/-! ## Pieces between dashes -/

def joined (first : List Char) (pieces : List (List Char)) : List Char :=
  first ++ pieces.flatMap (dashes ++ ·)

theorem joined_cons (p q : List Char) (qs : List (List Char)) :
    joined p (q :: qs) = p ++ dashes ++ joined q qs := by
  simp [joined]

section Pieces

variable {w p q : List Char} {qs : List (List Char)}

theorem eq_of_prefix_joined (hw : '-' ∉ w) (hq : '-' ∉ q) (h : w ++ dashes <+: joined q qs) :
    q = w ∧ qs ≠ [] := by
  induction w generalizing q with
  | nil =>
    rcases q with _ | ⟨d, q⟩
    · rcases qs with _ | ⟨r, rs⟩
      · cases List.prefix_nil.mp h
      · exact ⟨rfl, List.cons_ne_nil r rs⟩
    · exact absurd (List.cons_prefix_cons.mp h).1 fun hd => hq (hd ▸ List.mem_cons_self)
  | cons c w ih =>
    rcases q with _ | ⟨d, q⟩
    · rcases qs with _ | ⟨r, rs⟩
      · cases List.prefix_nil.mp h
      · exact absurd (List.cons_prefix_cons.mp h).1 fun hc => hw (hc ▸ List.mem_cons_self)
    · obtain ⟨rfl, hrest⟩ := List.cons_prefix_cons.mp h
      obtain ⟨rfl, hqs⟩ := ih (fun hmem => hw (List.mem_cons_of_mem c hmem))
        (fun hmem => hq (List.mem_cons_of_mem c hmem)) hrest
      exact ⟨rfl, hqs⟩

theorem not_prefix_joined {k : Nat} (hne : w ≠ []) (hw : '-' ∉ w) (hq : '-' ∉ q)
    (hk : 1 ≤ k ∧ k ≤ 4) : ¬ marker w <+: List.replicate k '-' ++ joined q qs := by
  obtain ⟨c, u, rfl⟩ := List.exists_cons_of_ne_nil hne
  obtain ⟨hlow, hhigh⟩ := hk
  have hc : ¬ c = '-' := fun h => hw (h ▸ List.mem_cons_self)
  rcases q with _ | ⟨d, q⟩
  · cases qs with
    | nil => interval_cases k <;> simp [marker, joined, dashes, List.replicate_succ]
    | cons r rs => interval_cases k <;> simp [marker, joined, dashes, List.replicate_succ, hc]
  · have hd : ¬ '-' = d := fun h => hq (h ▸ List.mem_cons_self)
    interval_cases k <;> simp [marker, joined, dashes, List.replicate_succ, hd]

theorem not_prefix_append {a s : List Char} (ha : a ≠ []) (hfree : '-' ∉ a) :
    ¬ marker w <+: a ++ s := by
  obtain ⟨c, a, rfl⟩ := List.exists_cons_of_ne_nil ha
  intro h
  exact hfree ((List.cons_prefix_cons.mp h).1 ▸ List.mem_cons_self)

theorem find_joined (hne : w ≠ []) (hw : '-' ∉ w) (hp : '-' ∉ p) (hq : '-' ∉ q)
    (h : ¬ (q = w ∧ qs ≠ [])) :
    find (marker w) (joined p (q :: qs)) =
      (find (marker w) (joined q qs)).map fun found => (p ++ dashes ++ found.1, found.2) := by
  rw [joined_cons]
  refine find_append fun v s hs hsplit hpre => ?_
  have hwhole : ¬ marker w <+: dashes ++ joined q qs := fun hpre =>
    h (eq_of_prefix_joined hw hq ((List.prefix_append_right_inj dashes).mp hpre))
  rcases List.append_eq_append_iff.mp hsplit with ⟨a, rfl, ha⟩ | ⟨a, rfl, rfl⟩
  · -- the marker would begin within the dashes
    have hdashes : a ++ s = List.replicate 5 '-' := ha.symm
    obtain ⟨hlen, -, hs'⟩ := List.append_eq_replicate_iff.mp hdashes
    have hpos : 0 < s.length := List.length_pos_iff.mpr hs
    rw [hs'] at hpre
    by_cases hall : s.length = 5
    · rw [hall] at hpre
      exact hwhole hpre
    · exact not_prefix_joined hne hw hq ⟨hpos, by omega⟩ hpre
  · -- or within the piece before them
    rw [List.append_assoc] at hpre
    by_cases ha : a = []
    · rw [ha] at hpre
      exact hwhole hpre
    · exact not_prefix_append ha (fun hmem => hp (List.mem_append_right v hmem)) hpre

theorem find_plain_append {s : List Char} (hp : '-' ∉ p) :
    find (marker w) (p ++ s) = (find (marker w) s).map fun found => (p ++ found.1, found.2) := by
  refine find_append ?_
  rintro v u hu rfl
  exact not_prefix_append hu fun hmem => hp (List.mem_append_right v hmem)

theorem find_marker {s : List Char} (hp : '-' ∉ p) :
    find (marker w) (p ++ (marker w ++ s)) = some (p, s) := by
  rw [find_plain_append hp, find_append_self]
  simp

end Pieces

/-! ## Blocks -/

theorem plain_texts (label : Label) :
    (beginText label ≠ [] ∧ '-' ∉ beginText label ∧ ' ' ∈ beginText label) ∧
      '-' ∉ endText label := by
  cases label <;> decide

theorem texts_inj (a b : Label) :
    (beginText a = beginText b ↔ a = b) ∧ endText a ≠ beginText b := by
  cases a <;> cases b <;> decide

namespace Block

variable (b : Block L)

theorem cases_of_mem_body {c : Char} (hc : c ∈ b.body) :
    (c = '\n' ∨ c = '\r') ∨ (c ≠ '\n' ∧ c ≠ '\r') ∧ c ≠ '-' ∧ L.isWhitespace c = false := by
  by_cases hbreak : c ≠ '\n' ∧ c ≠ '\r'
  · have hmem : c ∈ L.encode b.payload := by
      rw [← b.body_eq]
      exact List.mem_filter.mpr ⟨hc, decide_eq_true hbreak⟩
    exact .inr ⟨hbreak, L.encode_plain b.payload c hmem⟩
  · exact .inl (by rwa [not_and_or, not_not, not_not] at hbreak)

theorem body_plain : '-' ∉ b.body := by
  intro h
  rcases b.cases_of_mem_body h with hbreak | ⟨-, hhyphen, -⟩
  · simp at hbreak
  · exact hhyphen rfl

theorem body_ne {w : List Char} (hw : ' ' ∈ w) : b.body ≠ w := by
  rintro rfl
  rcases b.cases_of_mem_body hw with hbreak | ⟨-, -, hplain⟩
  · simp at hbreak
  · rw [L.whitespace.1] at hplain
    cases hplain

theorem decode_body : L.decode (b.body.filter fun c => !L.isWhitespace c) = .ok b.payload := by
  obtain ⟨-, hline, hreturn⟩ := L.whitespace
  rw [← L.decode_encode, ← b.body_eq]
  congr 1
  refine List.filter_congr fun c hc => ?_
  rcases b.cases_of_mem_body hc with (rfl | rfl) | ⟨hbreak, -, hplain⟩
  · simp [hline]
  · simp [hreturn]
  · simp [hbreak, hplain]

def pieces : List (List Char) := [beginText b.label, b.body, endText b.label, b.gap]

theorem append_flatMap_text (before : List Char) (blocks : List (Block L)) :
    before ++ blocks.flatMap text = joined before (blocks.flatMap pieces) := by
  rw [joined, List.flatMap_assoc]
  congr 2
  funext b
  simp [text, pieces, marker]

theorem find_text {label : Label} {before : List Char} (hb : b.label ≠ label)
    (hgap : b.gap ≠ beginText label) (hbefore : '-' ∉ before) (blocks : List (Block L)) :
    (find (marker (beginText label)) (before ++ (b :: blocks).flatMap text)).map Prod.snd =
      (find (marker (beginText label)) (b.gap ++ blocks.flatMap text)).map Prod.snd := by
  obtain ⟨⟨hne, hplain, hspace⟩, -⟩ := plain_texts label
  obtain ⟨⟨-, hbegin, -⟩, hend⟩ := plain_texts b.label
  rw [append_flatMap_text, append_flatMap_text]
  simp only [List.flatMap_cons, pieces, List.cons_append, List.nil_append]
  rw [find_joined hne hplain hbefore hbegin fun h => hb ((texts_inj _ _).1.mp h.1),
    find_joined hne hplain hbegin b.body_plain fun h => b.body_ne hspace h.1,
    find_joined hne hplain b.body_plain hend fun h => (texts_inj _ _).2 h.1,
    find_joined hne hplain hend b.gap_plain fun h => hgap h.1]
  simp only [Option.map_map]
  rfl

end Block

/-- By induction on the blocks: a block of the label takes a round, another one none. -/
theorem extractFrom_right {label : Label} {blocks : List (Block L)} {before : List Char}
    {rounds : Nat} (hrounds : blocks.length < rounds) (hbefore : '-' ∉ before)
    (h : ∀ b ∈ blocks, b.label ≠ label → b.gap ≠ beginText label) :
    extractFrom L label rounds (before ++ blocks.flatMap Block.text) =
      .ok (payloads label blocks) := by
  obtain ⟨rounds, rfl⟩ : ∃ n, rounds = n + 1 := ⟨rounds - 1, by omega⟩
  induction blocks generalizing before rounds with
  | nil =>
    rw [List.flatMap_nil, extractFrom, find_plain_append hbefore]
    rfl
  | cons b blocks ih =>
    obtain ⟨hfirst, hrest⟩ := List.forall_mem_cons.mp h
    rw [List.length_cons] at hrounds
    by_cases hb : b.label = label
    · obtain ⟨rounds, rfl⟩ : ∃ n, rounds = n + 1 := ⟨rounds - 1, by omega⟩
      have hih := ih b.gap_plain hrest rounds (by omega)
      subst hb
      simp only [List.flatMap_cons, Block.text, List.append_assoc]
      rw [extractFrom, find_marker hbefore]
      simp only [Option.map_some, find_marker b.body_plain, b.decode_body, hih]
      simp [payloads]
      rfl
    · have hsame := b.find_text hb (hfirst hb) hbefore blocks
      have hih := ih b.gap_plain hrest rounds (by omega)
      rw [extractFrom] at hih ⊢
      rw [hsame, hih, payloads, payloads, List.filter_cons_of_neg (by simpa using hb)]

def unary : PemLib Unit where
  isWhitespace c := c = ' ' ∨ c = '\n' ∨ c = '\r'
  encode payload := payload.map fun _ => 'A'
  decode text := if text.all (· == 'A') then .ok (text.map fun _ => ()) else .error "Invalid symbol"
  decode_encode payload := by simp [eq_comm, List.eq_replicate_iff]
  encode_plain payload := by simp
  whitespace := by decide

def keyThenCertificate (gap : List Char) (hgap : '-' ∉ gap) : File unary where
  before := []
  blocks := [⟨.rsaPrivateKey, List.replicate 8 (), "\nAAAA\nAAAA\n".toList, gap, by decide, hgap⟩,
    ⟨.certificate, List.replicate 4 (), "\nAAAA\n".toList, [], by decide, by simp⟩]
  before_plain := by simp

end Penguind.Squawk.Pem
