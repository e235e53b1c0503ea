import Mathlib.Data.Bool.AllAny
import Penguind.Squawk.Services

/-!
# Listings of services and interfaces

What the tools print about the network services of a host, and the names the backends take from
it.
-/

namespace Penguind.Squawk

structure TextLib (Ip : Type) extends ServiceLib Ip where
  whitespace_space : isWhitespace ' ' = true
  plain {c : Char} : 33 ≤ c.toNat ∧ c.toNat ≤ 126 → isWhitespace c = false

variable {Ip : Type} (L : TextLib Ip)

def OnLine (l : List Char) : Prop := '\n' ∉ l ∧ '\r' ∉ l
  deriving Decidable

structure Word (w : List Char) : Prop where
  ne_nil : w ≠ []
  line : OnLine w
  plain : ∀ c ∈ w, L.isWhitespace c = false

structure Entry where
  enabled : Bool
  state : List Char
  kind : List Char
  name : List Char
  state_word : Word L state
  kind_word : Word L kind
  name_line : OnLine name

variable {L}

def enabledNames (entries : List (Entry L)) : List String :=
  (entries.filter Entry.enabled).map fun e => String.ofList e.name

namespace Platform

def asteriskLine : List Char :=
  "An asterisk (*) denotes that a network service is disabled.".toList

def columnLine : List Char :=
  "Admin State    State          Type             Interface Name".toList

def header : Platform → List (List Char)
  | .macos => [asteriskLine]
  | .windows => [[], columnLine, List.replicate 73 '-']

def column (width : Nat) (w : List Char) : List Char :=
  w ++ List.replicate (max 1 (width - w.length)) ' '

def adminState (e : Entry L) : List Char := (if e.enabled then "Enabled" else "Disabled").toList

def entryLine : Platform → Entry L → List Char
  | .macos, e => (if e.enabled then [] else ['*']) ++ e.name
  | .windows, e =>
    column 15 (adminState e) ++ (column 15 e.state ++ (column 17 e.kind ++ e.name))

def listing (p : Platform) (entries : List (Entry L)) : String :=
  String.ofList (['\n'].intercalate (p.header ++ entries.map p.entryLine ++ [[]]))

end Platform

/-! ## Lines and words -/

theorem lines_intercalate {ls : List (List Char)} (h : ∀ l ∈ ls, OnLine l) :
    lines (['\n'].intercalate (ls ++ [[]])) = ls := by
  have hsplit : (['\n'].intercalate (ls ++ [[]])).splitOn '\n' = ls ++ [[]] := by
    refine List.splitOn_intercalate '\n' (fun l hl => ?_) (by simp)
    rcases List.mem_append.mp hl with hl | hl
    · exact (h l hl).1
    · simp_all
  simp only [lines, hsplit, List.getLast?_concat, if_true, List.dropLast_concat]
  refine (List.map_congr_left fun l hl => if_neg fun hlast => ?_).trans (List.map_id ls)
  exact (h l hl).2 (List.mem_of_getLast? hlast)

theorem trim_eq_self {c d : Char} {l : List Char} (hc : l.head? = some c) (hd : l.getLast? = some d)
    (hhead : L.isWhitespace c = false) (hlast : L.isWhitespace d = false) :
    trim L.toResolverLib l = l := by
  obtain ⟨u, rfl⟩ := List.head?_eq_some_iff.mp hc
  obtain ⟨v, hv⟩ := List.getLast?_eq_some_iff.mp hd
  rw [trim, List.dropWhile_cons_of_neg (by simp [hhead]), hv]
  exact List.rdropWhile_concat_neg _ _ _ (by simp [hlast])

theorem word_of_plain {w : List Char} (hne : w ≠ [])
    (h : w.all fun c => 33 ≤ c.toNat ∧ c.toNat ≤ 126) : Word L w := by
  have h := List.all_iff_forall_prop.mp h
  exact ⟨hne, ⟨fun hmem => absurd (h _ hmem) (by decide),
    fun hmem => absurd (h _ hmem) (by decide)⟩, fun c hc => L.plain (h c hc)⟩

theorem splitWhitespace_append (x y : List Char) :
    splitWhitespace L.toServiceLib (x ++ ' ' :: y) =
      splitWhitespace L.toServiceLib x ++ splitWhitespace L.toServiceLib y := by
  rw [splitWhitespace, List.splitOnP_append_cons x y L.whitespace_space, List.filter_append]
  rfl

theorem splitWhitespace_word {w : List Char} (hw : Word L w) :
    splitWhitespace L.toServiceLib w = [w] := by
  rw [splitWhitespace, List.splitOnP_eq_singleton fun c hc => by simpa using hw.plain c hc]
  simp [hw.ne_nil]

theorem splitWhitespace_column (width : Nat) {w : List Char} (hw : Word L w) (rest : List Char) :
    splitWhitespace L.toServiceLib (Platform.column width w ++ rest) =
      w :: splitWhitespace L.toServiceLib rest := by
  have hspaces : ∀ n, splitWhitespace L.toServiceLib (List.replicate n ' ' ++ rest) =
      splitWhitespace L.toServiceLib rest := by
    intro n
    induction n with
    | zero => rfl
    | succ n ih =>
      rw [List.replicate_succ, List.cons_append, ← ih]
      exact splitWhitespace_append [] _
  obtain ⟨n, hn⟩ : ∃ n, max 1 (width - w.length) = n + 1 := ⟨max 1 (width - w.length) - 1, by omega⟩
  rw [Platform.column, hn, List.append_assoc, List.replicate_succ, List.cons_append,
    splitWhitespace_append, splitWhitespace_word hw, hspaces]
  rfl

/-! ## What is taken -/

namespace Platform

theorem word_adminState (e : Entry L) : Word L (adminState e) := by
  rw [adminState]
  cases e.enabled <;> exact word_of_plain (by decide) (by decide)

theorem onLine_entryLine (p : Platform) (e : Entry L) : OnLine (p.entryLine e) := by
  have hname := e.name_line
  have hstate := e.state_word.line
  have hkind := e.kind_word.line
  have hadmin := (word_adminState e).line
  rw [OnLine] at *
  cases p with
  | macos => cases e.enabled <;> simp [entryLine, hname]
  | windows => simp [entryLine, column, hname, hstate, hkind, hadmin]

theorem lines_listing (p : Platform) (entries : List (Entry L)) :
    lines (p.listing entries).toList = p.header ++ entries.map p.entryLine := by
  rw [listing, String.toList_ofList]
  refine lines_intercalate fun l hl => ?_
  rcases List.mem_append.mp hl with hl | hl
  · have hheader : ∀ l ∈ p.header, OnLine l := by cases p <;> decide
    exact hheader l hl
  · obtain ⟨e, -, rfl⟩ := List.mem_map.mp hl
    exact onLine_entryLine p e

theorem services_macos (entries : List (Entry L)) :
    ((networkSetup L.toServiceLib).services (listing .macos entries)).head? =
      some (String.ofList asteriskLine) := by
  have htrim : trim L.toResolverLib asteriskLine = asteriskLine :=
    trim_eq_self (c := 'A') (d := '.') rfl rfl (L.plain (by decide)) (L.plain (by decide))
  simp only [networkSetup, lines_listing, header, List.cons_append, List.nil_append]
  rw [List.filterMap_cons_some (b := String.ofList asteriskLine) (by rw [htrim]; decide)]
  rfl

theorem services_windows {entries : List (Entry L)}
    (h : ∀ e ∈ entries, e.enabled ∧ Word L e.name) :
    (netsh L.toServiceLib).services (listing .windows entries) = enabledNames entries := by
  have hcolumns : trim L.toResolverLib columnLine = columnLine :=
    trim_eq_self (c := 'A') (d := 'e') rfl rfl (L.plain (by decide)) (L.plain (by decide))
  have hdashes : trim L.toResolverLib (List.replicate 73 '-') = List.replicate 73 '-' :=
    trim_eq_self (c := '-') (d := '-') rfl rfl (L.plain (by decide)) (L.plain (by decide))
  simp only [netsh, lines_listing, header, List.cons_append, List.nil_append]
  rw [List.filterMap_cons_none (by simp [trim]), List.filterMap_cons_none, List.filterMap_cons_none,
    List.filterMap_map, enabledNames, List.filter_eq_self.mpr fun e he => (h e he).1,
    List.filterMap_eq_map_iff_forall_eq_some]
  · intro e he
    obtain ⟨henabled, hname⟩ := h e he
    have hhead : (entryLine .windows e).head? = some 'E' := by
      simp [entryLine, column, adminState, henabled]
    have hlast : (entryLine .windows e).getLast? = some (e.name.getLast hname.ne_nil) := by
      simp [entryLine, List.getLast?_append, List.getLast?_eq_some_getLast hname.ne_nil]
    have hstart :
        ¬ (entryLine .windows e = [] ∨ "Admin State".toList <+: entryLine .windows e) := by
      obtain ⟨u, hu⟩ := List.head?_eq_some_iff.mp hhead
      simp [hu]
    simp only [Function.comp_apply]
    rw [trim_eq_self hhead hlast (L.plain (by decide)) (hname.plain _ (List.getLast_mem _)),
      if_neg hstart, entryLine, splitWhitespace_column 15 (word_adminState e),
      splitWhitespace_column 15 e.state_word, splitWhitespace_column 17 e.kind_word,
      splitWhitespace_word hname]
    rfl
  · rw [hdashes, splitWhitespace_word (word_of_plain (by decide) (by decide))]
    decide
  · rw [hcolumns]
    exact if_pos (.inr (by decide))

end Platform

def portableText : TextLib Nat :=
  { portable with
    whitespace_space := rfl
    plain := by
      rintro c ⟨hlow, -⟩
      refine decide_eq_false ?_
      rintro rfl
      exact absurd hlow (by decide) }

def connected (enabled : Bool) (name : List Char) (h : OnLine name) : Entry portableText :=
  ⟨enabled, "Connected".toList, "Dedicated".toList, name, word_of_plain (by decide) (by decide),
    word_of_plain (by decide) (by decide), h⟩

end Penguind.Squawk
