import Penguind.Foundation.Path

/-!
# Path-absolute references

What the URL standard makes of a reference that starts with one slash, when it is joined to a URL
with a special scheme. The parser drops controls and blanks at both ends and tabs and line breaks
everywhere, takes a backslash for a slash, and `%2e` for a dot in the dot segments.

## Main results

* `walk_eq_apply`: walking is applying the displacement
* `below_apply_iff`: when a displacement stays below the directory it is applied to
* `prefix_serialize_iff`: the prefixes of a path as text
* `resolve_append_append`, `decode_encode`: the path and the query of a text pasted together
-/

namespace Penguind.Foundation.Url

open PathSyntax (Displacement)

abbrev Segment := List Char

/-! ## What the parser sees -/

def isTabOrNewline (c : Char) : Bool := c == '\t' || c == '\n' || c == '\r'

def isControlOrSpace (c : Char) : Bool := c.toNat ≤ 0x20

def strip (input : List Char) : List Char :=
  ((input.dropWhile isControlOrSpace).rdropWhile isControlOrSpace).filter (!isTabOrNewline ·)

def pathPart (input : List Char) : List Char := input.takeWhile fun c => c != '?' && c != '#'

def isSlash (c : Char) : Bool := c == '/' || c == '\\'

def IsPathAbsolute (input : List Char) : Prop :=
  ∃ rest, strip input = '/' :: rest ∧ rest.head?.all (!isSlash ·)

def segments (input : List Char) : List Segment :=
  ((pathPart (strip input)).drop 1).splitOnP isSlash

def isSingleDot (s : Segment) : Bool :=
  s.map Char.toLower ∈ [".".toList, "%2e".toList]

def isDoubleDot (s : Segment) : Bool :=
  s.map Char.toLower ∈ ["..".toList, ".%2e".toList, "%2e.".toList, "%2e%2e".toList]

def inPathSet (c : Char) : Bool :=
  c.toNat ≤ 0x20 || 0x7e < c.toNat ||
    c.toNat ∈ [0x22, 0x23, 0x3c, 0x3e, 0x3f, 0x5e, 0x60, 0x7b, 0x7d]

def hexDigit (n : Nat) : Char := (Nat.digitChar n).toUpper

def encodeByte (b : UInt8) : List Char :=
  ['%', hexDigit (b.toNat / 16), hexDigit (b.toNat % 16)]

def encodeChar (c : Char) : List Char :=
  if inPathSet c then (String.utf8EncodeChar c).flatMap encodeByte else [c]

def encode (s : Segment) : Segment := s.flatMap encodeChar

def move (path : List Segment) (s : Segment) : List Segment :=
  if isDoubleDot s then path.dropLast
  else if isSingleDot s then path
  else path ++ [encode s]

def closing (segs : List Segment) : List Segment :=
  match segs.getLast? with
  | some s => if isDoubleDot s || isSingleDot s then [[]] else []
  | none => []

def walk (path segs : List Segment) : List Segment := segs.foldl move path ++ closing segs

def resolve (input : List Char) : List Segment := walk [] (segments input)

def serialize (path : List Segment) : List Char := '/' :: ['/'].intercalate path

/-! ## Displacements -/

def extend (d : Displacement Char) (s : Segment) : Displacement Char :=
  if isDoubleDot s then
    if d.down = [] then ⟨d.up + 1, []⟩ else ⟨d.up, d.down.dropLast⟩
  else if isSingleDot s then d
  else ⟨d.up, d.down ++ [encode s]⟩

def displacement (segs : List Segment) : Displacement Char :=
  let d := segs.foldl extend ⟨0, []⟩
  ⟨d.up, d.down ++ closing segs⟩

theorem apply_extend (d : Displacement Char) (s : Segment) (path : List Segment) :
    (extend d s).apply path = move (d.apply path) s := by
  unfold extend move Displacement.apply
  split_ifs with hdd hd
  · -- nothing to go back from: one more level up
    simp [hd, PathSyntax.dropLast_rdrop]
  · simp [hd, List.dropLast_append_of_ne_nil]
  · rfl
  · rw [List.append_assoc]

/-- **A walk applies the displacement** of its segments. -/
theorem walk_eq_apply (path segs : List Segment) :
    walk path segs = (displacement segs).apply path := by
  have hstart : (⟨0, []⟩ : Displacement Char).apply path = path := by simp [Displacement.apply]
  have hfold : segs.foldl move path = (segs.foldl extend ⟨0, []⟩).apply path := by
    -- Segment by segment: `apply_extend` is the step.
    rw [← List.foldl_hom (Displacement.apply · path) fun d s => (apply_extend d s path).symm,
      hstart]
  unfold walk displacement Displacement.apply
  rw [hfold, Displacement.apply, List.append_assoc]

theorem walk_append {path xs ys : List Segment} (hy : ys ≠ []) :
    walk path (xs ++ ys) = walk (xs.foldl move path) ys := by
  unfold walk closing
  rw [List.foldl_append, List.getLast?_append_of_ne_nil _ hy]

theorem walk_ne_nil {path segs : List Segment} (hs : segs ≠ []) : walk path segs ≠ [] := by
  obtain ⟨init, s, rfl⟩ := (List.eq_nil_or_concat segs).resolve_left hs
  rw [List.concat_eq_append, walk_append (List.cons_ne_nil _ _)]
  unfold walk closing
  by_cases hdot : (isDoubleDot s || isSingleDot s) = true
  · simp [hdot]
  · simp only [Bool.or_eq_true, not_or] at hdot
    simp [move, hdot.1, hdot.2]

def Below (dir path : List Segment) : Prop := ∃ s rest, path = dir ++ s :: rest

/-- The displacement names again every level of `dir` that it has left. -/
def Returns (dir : List Segment) (d : Displacement Char) : Prop :=
  Below (dir.drop (dir.length - d.up)) d.down

/-- **Staying below**: exactly if every level that is left is named again. -/
theorem below_apply_iff (dir : List Segment) (d : Displacement Char) :
    Below dir (d.apply dir) ↔ Returns dir d := by
  unfold Returns Below Displacement.apply
  rw [List.rdrop]
  -- what is left of the directory is a common beginning of both sides
  refine exists_congr fun s => exists_congr fun rest => ?_
  constructor
  · intro h
    rw [← List.take_append_drop (dir.length - d.up) dir, List.append_assoc] at h
    simpa using h
  · intro h
    rw [h, ← List.append_assoc, List.take_append_drop]

theorem mem_splitOnP {p : Char → Bool} {l : List Char} {s : Segment} (hs : s ∈ l.splitOnP p) :
    ∀ c ∈ s, p c = false := by
  induction l generalizing s with
  | nil => simp_all
  | cons x l ih =>
    rw [List.splitOnP_cons_eq_if_modifyHead] at hs
    split_ifs at hs with hx
    · rcases List.mem_cons.mp hs with rfl | hs
      · simp
      · exact ih hs
    · -- the letter goes to the first segment of the rest
      obtain ⟨t, ts, ht⟩ := List.exists_cons_of_ne_nil (List.splitOnP_ne_nil p l)
      rw [ht, List.modifyHead_cons, List.mem_cons] at hs
      have hmem : t ∈ l.splitOnP p := by simp [ht]
      rcases hs with rfl | hs
      · intro c hc
        rcases List.mem_cons.mp hc with rfl | hc
        · simpa using hx
        · exact ih hmem c hc
      · exact ih (by rw [ht]; exact List.mem_cons_of_mem _ hs)

theorem slash_notMem_encode {s : Segment} (hs : '/' ∉ s) : '/' ∉ encode s := by
  have hdigit : ∀ n < 16, hexDigit n ≠ '/' := by decide
  intro h
  obtain ⟨c, hc, h⟩ := List.mem_flatMap.mp h
  unfold encodeChar at h
  split_ifs at h
  · -- an encoded character is percent signs and digits
    obtain ⟨b, -, h⟩ := List.mem_flatMap.mp h
    simp only [encodeByte, List.mem_cons, List.not_mem_nil, or_false] at h
    rcases h with h | h | h
    · exact absurd h (by decide)
    · exact hdigit _ (Nat.div_lt_of_lt_mul b.toNat_lt) h.symm
    · exact hdigit _ (Nat.mod_lt _ (by decide)) h.symm
  · rw [List.mem_singleton] at h
    exact hs (h ▸ hc)

theorem slash_notMem_walk {path segs : List Segment} (hp : ∀ s ∈ path, '/' ∉ s)
    (hs : ∀ s ∈ segs, '/' ∉ s) : ∀ s ∈ walk path segs, '/' ∉ s := by
  have hfold : ∀ s ∈ segs.foldl move path, '/' ∉ s := by
    induction segs generalizing path with
    | nil => exact hp
    | cons t segs ih =>
      rw [List.forall_mem_cons] at hs
      refine ih ?_ hs.2
      fun_cases move path t with
      | case1 => exact fun s h => hp s (List.dropLast_subset _ h)
      | case2 => exact hp
      | case3 =>
        exact List.forall_mem_append.mpr
          ⟨hp, List.forall_mem_singleton.mpr (slash_notMem_encode hs.1)⟩
  refine List.forall_mem_append.mpr ⟨hfold, ?_⟩
  fun_cases closing segs <;> simp

theorem slash_notMem_resolve (input : List Char) : ∀ s ∈ resolve input, '/' ∉ s := by
  refine slash_notMem_walk (by simp) fun s hs h => ?_
  exact absurd (mem_splitOnP hs _ h) (by decide)

theorem intercalate_append {sep : List Char} {xs ys : List Segment} (hx : xs ≠ []) (hy : ys ≠ []) :
    sep.intercalate (xs ++ ys) = sep.intercalate xs ++ sep ++ sep.intercalate ys := by
  induction xs with
  | nil => exact absurd rfl hx
  | cons x xs ih =>
    cases xs with
    | nil => rw [List.singleton_append, List.intercalate_cons_of_ne_nil hy,
        List.intercalate_singleton]
    | cons x' xs =>
      rw [List.cons_append, List.cons_append, List.intercalate_cons_cons,
        List.intercalate_cons_cons, ← List.cons_append, ih (List.cons_ne_nil _ _)]
      simp only [List.append_assoc]

/-- **Prefixes of a path as text** are the directories it is below. -/
theorem prefix_serialize_iff {dir path : List Segment} (hd : dir ≠ []) (hp : path ≠ [])
    (hdir : ∀ s ∈ dir, '/' ∉ s) (hpath : ∀ s ∈ path, '/' ∉ s) :
    serialize dir ++ ['/'] <+: serialize path ↔ Below dir path := by
  constructor
  · rintro ⟨t, ht⟩
    have ht : ['/'].intercalate dir ++ '/' :: t = ['/'].intercalate path := by
      simpa [serialize] using ht
    -- Both texts are split again; the segments have no slash of their own.
    have hsplit := congrArg (List.splitOn '/') ht
    rw [List.splitOn_append_cons_self, List.splitOn_intercalate _ hdir hd,
      List.splitOn_intercalate _ hpath hp] at hsplit
    obtain ⟨s, rest, hs⟩ := List.exists_cons_of_ne_nil (List.splitOn_ne_nil '/' t)
    exact ⟨s, rest, hsplit.symm.trans (by rw [hs])⟩
  · rintro ⟨s, rest, rfl⟩
    refine ⟨['/'].intercalate (s :: rest), ?_⟩
    rw [serialize, serialize, intercalate_append hd (List.cons_ne_nil _ _)]
    simp

/-! ## References with a plain beginning -/

theorem rdropWhile_append_of_getLast {p : Char → Bool} {xs : List Char} (hne : xs ≠ [])
    (hx : p (xs.getLast hne) = false) (ys : List Char) :
    (xs ++ ys).rdropWhile p = xs ++ ys.rdropWhile p := by
  induction ys using List.reverseRecOn with
  | nil =>
    rw [List.append_nil, List.rdropWhile_nil, List.append_nil, List.rdropWhile_eq_self_iff]
    exact fun _ => by simp [hx]
  | append_singleton ys y ih =>
    rw [← List.append_assoc, List.rdropWhile_concat, List.rdropWhile_concat, ih]
    split_ifs <;> simp

theorem pathPart_strip_append {xs : List Char} (hne : xs ≠ [])
    (hx : ∀ c ∈ xs, isControlOrSpace c = false ∧ isTabOrNewline c = false ∧ c ≠ '?' ∧ c ≠ '#')
    (ys : List Char) :
    ∃ zs, strip (xs ++ ys) = xs ++ zs ∧ pathPart (strip (xs ++ ys)) = xs ++ pathPart zs := by
  have hstart : (xs ++ ys).dropWhile isControlOrSpace = xs ++ ys := by
    obtain ⟨x, xs, rfl⟩ := List.exists_cons_of_ne_nil hne
    rw [List.cons_append, List.dropWhile_cons_of_neg]
    simp [(hx x List.mem_cons_self).1]
  have hfilter : xs.filter (!isTabOrNewline ·) = xs :=
    List.filter_eq_self.mpr fun c hc => by simp [(hx c hc).2.1]
  have hstrip : strip (xs ++ ys) =
      xs ++ (ys.rdropWhile isControlOrSpace).filter (!isTabOrNewline ·) := by
    unfold strip
    rw [hstart, rdropWhile_append_of_getLast hne (hx _ (List.getLast_mem hne)).1,
      List.filter_append, hfilter]
  refine ⟨_, hstrip, ?_⟩
  rw [hstrip]
  exact List.takeWhile_append_of_pos fun c hc => by simp [(hx c hc).2.2]

/-! ## References with one more segment -/

def query (input : List Char) : Option (List Char) :=
  (((strip input).takeWhile (· != '#')).dropWhile (· != '?')).tail?

def hexValue (c : Char) : Option Nat :=
  (List.range 16).find? fun n => hexDigit n == c.toUpper

/-- A percent sign without two digits stands for itself. -/
def decode : Segment → List UInt8
  | '%' :: a :: b :: rest =>
    match hexValue a, hexValue b with
    | some m, some n => UInt8.ofNat (16 * m + n) :: decode rest
    | _, _ => 0x25 :: decode (a :: b :: rest)
  | c :: rest => String.utf8EncodeChar c ++ decode rest
  | [] => []

/-- Nothing that is removed from a reference or ends its path. -/
def Visible (l : List Char) : Prop := ∀ c ∈ l, isTabOrNewline c = false ∧ c ≠ '?' ∧ c ≠ '#'

instance (l : List Char) : Decidable (Visible l) := List.decidableBAll _ l

/-- A text that the parser takes for one segment as it is. -/
structure Ordinary (s : Segment) : Prop where
  visible : Visible s
  slash : ∀ c ∈ s, isSlash c = false
  last : s.getLast?.all (!isControlOrSpace ·)
  dots : isDoubleDot s = false ∧ isSingleDot s = false

theorem decode_cons {c : Char} (hc : c ≠ '%') (rest : List Char) :
    decode (c :: rest) = String.utf8EncodeChar c ++ decode rest := by
  rw [decode]
  rintro a b rest' ⟨⟩
  exact absurd rfl hc

theorem decode_encodeByte (b : UInt8) (rest : List Char) :
    decode (encodeByte b ++ rest) = b :: decode rest := by
  have hdigit : ∀ n < 16, hexValue (hexDigit n) = some n := by decide
  have hb := b.toNat_lt
  simp only [encodeByte, List.cons_append, List.nil_append, decode]
  rw [hdigit _ (by omega), hdigit _ (by omega)]
  simp [Nat.div_add_mod]

theorem decode_encode {s : Segment} (hs : '%' ∉ s) :
    decode (encode s) = s.flatMap String.utf8EncodeChar := by
  have hbytes (bs : List UInt8) (rest : List Char) :
      decode (bs.flatMap encodeByte ++ rest) = bs ++ decode rest := by
    induction bs with
    | nil => rfl
    | cons b bs ih =>
      rw [List.flatMap_cons, List.append_assoc, decode_encodeByte, ih, List.cons_append]
  induction s with
  | nil => rfl
  | cons c s ih =>
    rw [List.mem_cons, not_or] at hs
    rw [encode, List.flatMap_cons, ← encode, encodeChar, List.flatMap_cons, ← ih hs.2]
    split_ifs
    · exact hbytes ..
    · exact decode_cons (Ne.symm hs.1) _

theorem Ordinary.splitOnP {s : Segment} (hs : Ordinary s) (xs : List Char) :
    (xs ++ '/' :: s).splitOnP isSlash = xs.splitOnP isSlash ++ [s] := by
  have hone : s.splitOnP isSlash = [s] :=
    List.splitOnP_eq_singleton fun c hc => by simp [hs.slash c hc]
  rw [List.splitOnP_append_cons _ _ rfl, hone]

section Append

variable {xs : List Char} {s : Segment} (hxs : Visible ('/' :: xs)) (hs : Ordinary s)
include hxs hs

theorem visible_append : Visible ('/' :: (xs ++ '/' :: s)) :=
  List.forall_mem_append.mpr ⟨hxs, List.forall_mem_cons.mpr ⟨by decide, hs.visible⟩⟩

theorem strip_append : strip ('/' :: (xs ++ '/' :: s)) = '/' :: (xs ++ '/' :: s) := by
  have hlast : s.rdropWhile isControlOrSpace = s := by
    rw [List.rdropWhile_eq_self_iff]
    intro hne
    simpa [List.getLast?_eq_some_getLast hne] using hs.last
  have hsplit : '/' :: (xs ++ '/' :: s) = ('/' :: xs ++ ['/']) ++ s := by simp
  rw [strip, List.dropWhile_cons_of_neg (by decide), hsplit,
    rdropWhile_append_of_getLast (by simp) (by simp; decide), hlast, ← hsplit]
  exact List.filter_eq_self.mpr fun c hc => by simp [(visible_append hxs hs c hc).1]

theorem query_append : query ('/' :: (xs ++ '/' :: s)) = none := by
  have hrest : (('/' :: (xs ++ '/' :: s)).takeWhile (· != '#')).dropWhile (· != '?') = [] :=
    List.dropWhile_eq_nil_iff.mpr fun c hc => by
      simpa using (visible_append hxs hs c (List.takeWhile_subset _ hc)).2.1
  rw [query, strip_append hxs hs, hrest, List.tail?_nil]

theorem resolve_append : resolve ('/' :: (xs ++ '/' :: s)) =
    (xs.splitOnP isSlash).foldl move [] ++ [encode s] := by
  have hpath : pathPart ('/' :: (xs ++ '/' :: s)) = '/' :: (xs ++ '/' :: s) :=
    List.takeWhile_eq_self_iff.mpr fun c hc => by simpa using (visible_append hxs hs c hc).2
  rw [resolve, segments, strip_append hxs hs, hpath, List.drop_one, List.tail_cons, hs.splitOnP,
    walk_append (List.cons_ne_nil _ _)]
  simp [walk, closing, move, hs.dots]

/-- **One more segment**: the text of a segment extends a path by that segment. -/
theorem resolve_append_append {r : Segment} (hr : Ordinary r) :
    resolve ('/' :: (xs ++ '/' :: r ++ '/' :: s)) =
      resolve ('/' :: (xs ++ '/' :: r)) ++ [encode s] := by
  rw [resolve_append (visible_append hxs hr) hs, hr.splitOnP, List.foldl_append,
    resolve_append hxs hr]
  simp [move, hr.dots]

end Append

end Penguind.Foundation.Url
