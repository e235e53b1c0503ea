import Penguind.Squawk.Listings

/-!
# Lists of servers as texts

Addresses are written into the resolver file, a line each, and into the crash marker. The loops that
read them back skip what does not parse.
-/

namespace Penguind.Squawk

inductive IpAddr
  | v4 (octets : Vector UInt8 4)
  | v6 (segments : Vector UInt16 8)
  deriving DecidableEq

namespace IpAddr

structure Span where
  start : Nat := 0
  len : Nat := 0

/-- The longest run of zeros so far and the one that goes on here. -/
def nextSpan (spans : Span × Span) (segment : UInt16 × Nat) : Span × Span :=
  if segment.1 = 0 then
    let current := ⟨if spans.2.len = 0 then segment.2 else spans.2.start, spans.2.len + 1⟩
    (if spans.1.len < current.len then current else spans.1, current)
  else (spans.1, {})

def zeroes (segments : List UInt16) : Span := (segments.zipIdx.foldl nextSpan ({}, {})).1

def dotted (octets : List Nat) : List Char := ['.'].intercalate (octets.map (Nat.toDigits 10))

def fmtSubslice (chunk : List UInt16) : List Char :=
  [':'].intercalate (chunk.map fun segment => Nat.toDigits 16 segment.toNat)

def fmtV6 (segments : List UInt16) : List Char :=
  if segments.take 6 = [0, 0, 0, 0, 0, 0xffff] then
    "::ffff:".toList ++ dotted ((segments.drop 6).flatMap fun s => [s.toNat / 256, s.toNat % 256])
  else if 1 < (zeroes segments).len then
    fmtSubslice (segments.take (zeroes segments).start) ++ "::".toList ++
      fmtSubslice (segments.drop ((zeroes segments).start + (zeroes segments).len))
  else fmtSubslice segments

/-- The `Display` of the standard library. -/
def display : IpAddr → List Char
  | .v4 octets => dotted (octets.toList.map UInt8.toNat)
  | .v6 segments => fmtV6 segments.toList

end IpAddr

/-- Libraries that print addresses so, and UTF-8 that is read back. -/
structure AddressLib extends TextLib IpAddr where
  show_eq (a : IpAddr) : showIp a = String.ofList a.display
  decode_encodeUtf8 (text : String) : decodeUtf8Lossy (encodeUtf8 text) = text.toList

/-! ## Texts of addresses -/

def Printable (l : List Char) : Prop := ∀ c ∈ l, 33 ≤ c.toNat ∧ c.toNat ≤ 126

theorem printable_toDigits {b : Nat} (hb : 1 < b) (hmax : b ≤ 16) (n : Nat) :
    Printable (b.toDigits n) := by
  have hdigit : ∀ d < 16, 33 ≤ (Nat.digitChar d).toNat ∧ (Nat.digitChar d).toNat ≤ 126 := by
    decide
  -- By the recursion of `toDigits`: the digits of `n / b`, then the last one.
  induction n using Nat.strongRecOn with
  | ind n ih =>
    rw [Nat.toDigits_eq_if hb]
    split
    case isTrue h => exact List.forall_mem_singleton.mpr (hdigit n (by omega))
    case isFalse h =>
      have hmod : n % b < 16 := (Nat.mod_lt n (by omega)).trans_le hmax
      exact List.forall_mem_append.mpr ⟨ih _ (Nat.div_lt_self (by omega) hb),
        List.forall_mem_singleton.mpr (hdigit _ hmod)⟩

theorem printable_intercalate {sep : Char} (hsep : Printable [sep]) {ls : List (List Char)}
    (h : ∀ l ∈ ls, Printable l) : Printable ([sep].intercalate ls) := by
  induction ls with
  | nil => exact List.forall_mem_nil _
  | cons l ls ih =>
    obtain ⟨hl, hls⟩ := List.forall_mem_cons.mp h
    cases ls with
    | nil => simpa using hl
    | cons l' ls =>
      rw [List.intercalate_cons_cons]
      exact List.forall_mem_append.mpr ⟨List.forall_mem_append.mpr ⟨hl, hsep⟩, ih hls⟩

namespace IpAddr

theorem printable_dotted (octets : List Nat) : Printable (dotted octets) := by
  refine printable_intercalate (by simp [Printable]) fun l hl => ?_
  obtain ⟨n, -, rfl⟩ := List.mem_map.mp hl
  exact printable_toDigits (by decide) (by decide) n

theorem printable_fmtSubslice (chunk : List UInt16) : Printable (fmtSubslice chunk) := by
  refine printable_intercalate (by simp [Printable]) fun l hl => ?_
  obtain ⟨segment, -, rfl⟩ := List.mem_map.mp hl
  exact printable_toDigits (by decide) le_rfl _

theorem printable_display (a : IpAddr) : Printable a.display := by
  cases a with
  | v4 octets => exact printable_dotted _
  | v6 segments =>
    rw [display, fmtV6]
    split_ifs
    · exact List.forall_mem_append.mpr ⟨by simp, printable_dotted _⟩
    · exact List.forall_mem_append.mpr ⟨List.forall_mem_append.mpr
        ⟨printable_fmtSubslice _, by simp⟩, printable_fmtSubslice _⟩
    · exact printable_fmtSubslice _

theorem display_ne_nil (a : IpAddr) : a.display ≠ [] := by
  have hcons {sep : Char} {l : List Char} (ls : List (List Char)) (hl : l ≠ []) :
      [sep].intercalate (l :: ls) ≠ [] := by
    cases ls with
    | nil => simpa using hl
    | cons l' ls => simp [List.intercalate_cons_cons]
  cases a with
  | v4 octets =>
    obtain ⟨octet, rest, h⟩ := List.exists_cons_of_length_pos (l := octets.toList) (by simp)
    rw [display, dotted, h]
    exact hcons _ Nat.toDigits_ne_nil
  | v6 segments =>
    obtain ⟨segment, rest, h⟩ := List.exists_cons_of_length_pos (l := segments.toList) (by simp)
    rw [display, fmtV6]
    split_ifs
    · simp
    · simp
    · rw [fmtSubslice, h]
      exact hcons _ Nat.toDigits_ne_nil

end IpAddr

theorem word_showIp (L : AddressLib) (a : IpAddr) : Word L.toTextLib (L.showIp a).toList := by
  rw [L.show_eq, String.toList_ofList]
  exact word_of_plain a.display_ne_nil (List.all_iff_forall_prop.mpr a.printable_display)

/-! ## Reading back -/

section

variable {L : AddressLib} {servers : List IpAddr}

theorem Word.trim_append {w : List Char} (hw : Word L.toTextLib w) {l : List Char}
    (hl : ∀ c ∈ (l ++ w).head?, L.isWhitespace c = false) :
    trim L.toResolverLib (l ++ w) = l ++ w := by
  have hne : l ++ w ≠ [] := List.append_ne_nil_of_right_ne_nil l hw.ne_nil
  have hhead : (l ++ w).head? = some _ := List.head?_eq_some_head hne
  refine trim_eq_self hhead ?_ (hl _ hhead) (hw.plain _ (List.getLast_mem hw.ne_nil))
  rw [List.getLast?_append_of_ne_nil _ hw.ne_nil, List.getLast?_eq_some_getLast hw.ne_nil]

theorem lines_formatResolvConf (L : AddressLib) (servers : List IpAddr) :
    lines (formatResolvConf L.toResolverLib servers).toList =
      "# Generated by penguin squawk module".toList ::
        servers.map fun a => "nameserver ".toList ++ (L.showIp a).toList := by
  have honLine : ∀ l ∈ "# Generated by penguin squawk module".toList ::
      servers.map fun a => "nameserver ".toList ++ (L.showIp a).toList, OnLine l := by
    refine List.forall_mem_cons.mpr ⟨by decide, fun l hl => ?_⟩
    obtain ⟨a, -, rfl⟩ := List.mem_map.mp hl
    obtain ⟨hnewline, hreturn⟩ := (word_showIp L a).line
    exact ⟨by simpa using hnewline, by simpa using hreturn⟩
  rw [← lines_intercalate honLine, formatResolvConf, String.toList_intercalate]
  simp [Function.comp_def]

theorem parseNameservers_formatResolvConf
    (h : ∀ a ∈ servers, L.parseIp (L.showIp a) = some a) :
    parseNameservers L.toResolverLib (formatResolvConf L.toResolverLib servers).toList =
      servers := by
  have hheader : trim L.toResolverLib "# Generated by penguin squawk module".toList =
      "# Generated by penguin squawk module".toList :=
    trim_eq_self (c := '#') (d := 'e') rfl rfl (L.plain (by decide)) (L.plain (by decide))
  rw [parseNameservers, lines_formatResolvConf, List.filterMap_cons_none, List.filterMap_map]
  · refine (List.filterMap_eq_map_iff_forall_eq_some.mpr fun a ha => ?_).trans (List.map_id _)
    -- The line and the text after its keyword begin and end in printable characters.
    have hw := word_showIp L a
    have hline := hw.trim_append (l := "nameserver ".toList) (by
      rintro _ ⟨⟩
      exact L.plain (by decide))
    have htext : trim L.toResolverLib (L.showIp a).toList = (L.showIp a).toList :=
      hw.trim_append (l := []) fun c hc => hw.plain c (List.mem_of_mem_head? hc)
    simp only [Function.comp_apply, hline]
    rw [if_pos (List.prefix_append _ _), List.drop_left, htext, String.ofList_toList]
    exact h a ha
  · -- The header is not a `nameserver` line.
    rw [hheader]
    exact if_neg (by decide)

end

/-- **Servers are read back** from the resolver file and from the crash marker. -/
theorem servers_read_back (L : AddressLib) (servers : List IpAddr) (backend : String)
    (appliedAt : Nat) (h : ∀ a ∈ servers, L.parseIp (L.showIp a) = some a) :
    parseNameservers L.toResolverLib
        (L.decodeUtf8Lossy (L.encodeUtf8 (formatResolvConf L.toResolverLib servers))) = servers ∧
      (L.decodeMarker (L.encodeMarker ⟨servers.map L.showIp, backend, appliedAt⟩)).map
        (·.parseServers L.toResolverLib) = .ok servers := by
  rw [L.decode_encodeUtf8, L.decode_encode]
  refine ⟨parseNameservers_formatResolvConf h, congrArg Except.ok ?_⟩
  show (servers.map L.showIp).filterMap L.parseIp = servers
  rw [List.filterMap_map]
  exact (List.filterMap_eq_map_iff_forall_eq_some.mpr h).trans (List.map_id _)

def loopbacks : List IpAddr := [.v4 #v[127, 0, 0, 1], .v6 #v[0, 0, 0, 0, 0, 0, 0, 1]]

def loopbackLib : AddressLib :=
  { portableText with
    showIp := fun a => String.ofList a.display
    parseIp := fun text => loopbacks.find? fun a => String.ofList a.display = text
    encodeUtf8 := fun text => unary (text.toList.map Char.toNat)
    decodeUtf8Lossy := fun bytes => (readUnary bytes 0).map Char.ofNat
    show_eq := fun _ => rfl
    decode_encodeUtf8 := fun text => by simp [readUnary_unary, Function.comp_def] }

theorem loopbacks_read_back :
    (formatResolvConf loopbackLib.toResolverLib loopbacks =
      "# Generated by penguin squawk module\nnameserver 127.0.0.1\nnameserver ::1\n") ∧
    parseNameservers loopbackLib.toResolverLib (loopbackLib.decodeUtf8Lossy
      (loopbackLib.encodeUtf8 (formatResolvConf loopbackLib.toResolverLib loopbacks))) =
        loopbacks :=
  ⟨by decide +kernel,
    (servers_read_back loopbackLib loopbacks "resolv.conf" 0 (by decide +kernel)).1⟩

end Penguind.Squawk
