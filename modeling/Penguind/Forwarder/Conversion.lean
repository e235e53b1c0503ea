import Mathlib.Data.List.TakeWhile
import Penguind.Forwarder.Answers

/-!
# The conversion of answers, specified

What a record has to be to carry an answer, stated apart from the code. Answers that have no such
record are left out, and nothing else is.
-/

namespace Penguind.Forwarder

section

variable (L : DnsLib)

/-- The exchange alone, or with a preference, where what is no number of 16 bits counts as 0. -/
inductive MxText : List Char → UInt16 → L.Name → Prop
  | bare {text : List Char} {exchange : L.Name} (hno : ∀ c ∈ text, L.isWhitespace c = false)
      (hx : L.fromAscii (.ofList text) = some exchange) : MxText text 0 exchange
  | pair {preference rest : List Char} {w : Char} {exchange : L.Name}
      (hno : ∀ c ∈ preference, L.isWhitespace c = false) (hw : L.isWhitespace w = true)
      (hx : L.fromAscii (.ofList (trim L rest)) = some exchange) :
      MxText (preference ++ w :: rest) ((parseU16 preference).getD 0) exchange

inductive Carries : String → String → RData L → Prop
  | a {data : String} {ip : L.Ipv4Addr} (h : L.parseIpv4 data = some ip) : Carries "A" data (.a ip)
  | aaaa {data : String} {ip : L.Ipv6Addr} (h : L.parseIpv6 data = some ip) :
      Carries "AAAA" data (.aaaa ip)
  | cname {data : String} {target : L.Name} (h : L.fromAscii data = some target) :
      Carries "CNAME" data (.cname target)
  | ns {data : String} {target : L.Name} (h : L.fromAscii data = some target) :
      Carries "NS" data (.ns target)
  | mx {data : String} {preference : UInt16} {exchange : L.Name}
      (h : MxText L (trim L data.toList) preference exchange) :
      Carries "MX" data (.mx preference exchange)
  | txt {data : String} : Carries "TXT" data (.txt [data])

structure Converts (answer : DnsRecord) (record : Record L) : Prop where
  owner : L.fromAscii answer.name = some record.owner
  ttl : (record.ttl.toNat : Int) = max 0 (min answer.ttl.toInt 4294967295)
  data : Carries L (answer.kind.asTypeStr.map Char.toUpper) answer.data record.data

inductive Conversions (Represents : Record L → Prop) : List DnsRecord → List (Record L) → Prop
  | nil : Conversions Represents [] []
  | keep {answer : DnsRecord} {record : Record L} {answers : List DnsRecord}
      {records : List (Record L)} (h : Converts L answer record)
      (hrest : Conversions Represents answers records) :
      Conversions Represents (answer :: answers) (record :: records)
  | skip {answer : DnsRecord} {answers : List DnsRecord} {records : List (Record L)}
      (h : ∀ record, Converts L answer record → ¬ Represents record)
      (hrest : Conversions Represents answers records) :
      Conversions Represents (answer :: answers) records

variable {L}

theorem splitOnce_eq_none {text : List Char} :
    splitOnce L text = none ↔ ∀ c ∈ text, L.isWhitespace c = false := by
  fun_cases splitOnce L text with
  | case1 h => simpa using h
  | case2 _ _ h =>
    refine iff_of_false nofun fun hno => ?_
    cases h.symm.trans (List.dropWhile_eq_nil_iff.mpr (by simpa using hno))

theorem splitOnce_append {preference rest : List Char} {w : Char}
    (hno : ∀ c ∈ preference, L.isWhitespace c = false) (hw : L.isWhitespace w = true) :
    splitOnce L (preference ++ w :: rest) = some (preference, rest) := by
  have hdrop : (preference ++ w :: rest).dropWhile (fun c => !L.isWhitespace c) = w :: rest := by
    rw [List.dropWhile_append_of_pos (by simpa using hno),
      List.dropWhile_cons_of_neg (by simp [hw])]
  have htake : (preference ++ w :: rest).takeWhile (fun c => !L.isWhitespace c) = preference := by
    rw [List.takeWhile_append_of_pos (by simpa using hno),
      List.takeWhile_cons_of_neg (by simp [hw]), List.append_nil]
  simp only [splitOnce, hdrop, htake]

theorem exists_of_splitOnce {text preference rest : List Char}
    (h : splitOnce L text = some (preference, rest)) :
    ∃ w, L.isWhitespace w = true ∧ (∀ c ∈ preference, L.isWhitespace c = false) ∧
      text = preference ++ w :: rest := by
  revert h
  fun_cases splitOnce L text with rintro ⟨⟩
  | case2 w rest hdrop =>
    refine ⟨w, ?_, fun c hc => ?_, ?_⟩
    · have hpos : 0 < (text.dropWhile fun c => !L.isWhitespace c).length := by simp [hdrop]
      simpa [hdrop] using List.dropWhile_get_zero_not (fun c => !L.isWhitespace c) text hpos
    · simpa using List.mem_takeWhile_imp hc
    · rw [← hdrop, List.takeWhile_append_dropWhile]

theorem parseMxData_eq_some_iff {data : String} {preference : UInt16} {exchange : L.Name} :
    parseMxData L data = some (preference, exchange) ↔
      MxText L (trim L data.toList) preference exchange := by
  simp only [parseMxData]
  generalize trim L data.toList = text
  constructor
  · intro h
    split at h
    · rename_i hsplit
      obtain ⟨x, hx, ⟨⟩⟩ := Option.map_eq_some_iff.mp h
      exact .bare (splitOnce_eq_none.mp hsplit) hx
    · rename_i pre rest hsplit
      obtain ⟨x, hx, ⟨⟩⟩ := Option.map_eq_some_iff.mp h
      obtain ⟨w, hw, hno, rfl⟩ := exists_of_splitOnce hsplit
      exact .pair hno hw hx
  · intro h
    cases h with
    | bare hno hx => simp [splitOnce_eq_none.mpr hno, hx]
    | pair hno hw hx => simp [splitOnce_append hno hw, hx]

theorem convertData_eq_some_iff {typeStr data : String} {rdata : RData L} :
    convertData L typeStr data = some rdata ↔ Carries L typeStr data rdata := by
  constructor
  · intro h
    unfold convertData at h
    split_ifs at h with h₁ h₂ h₃ h₄ h₅ h₆
    · obtain ⟨ip, hip, rfl⟩ := Option.map_eq_some_iff.mp h
      exact h₁ ▸ .a hip
    · obtain ⟨ip, hip, rfl⟩ := Option.map_eq_some_iff.mp h
      exact h₂ ▸ .aaaa hip
    · obtain ⟨target, ht, rfl⟩ := Option.map_eq_some_iff.mp h
      exact h₃ ▸ .cname ht
    · obtain ⟨target, ht, rfl⟩ := Option.map_eq_some_iff.mp h
      exact h₄ ▸ .ns ht
    · obtain ⟨⟨preference, exchange⟩, hmx, rfl⟩ := Option.map_eq_some_iff.mp h
      exact h₅ ▸ .mx (parseMxData_eq_some_iff.mp hmx)
    · cases h
      exact h₆ ▸ .txt
  · intro h
    cases h with
    | a h | aaaa h | cname h | ns h => simp [convertData, h]
    | mx h => simp [convertData, parseMxData_eq_some_iff.mpr h]
    | txt => simp [convertData]

theorem convertAnswerToRecord_eq_some_iff {answer : DnsRecord} {record : Record L} :
    convertAnswerToRecord L answer = some record ↔ Converts L answer record := by
  constructor
  · intro h
    obtain ⟨owner, howner, h⟩ := Option.bind_eq_some_iff.mp h
    obtain ⟨data, hdata, h⟩ := Option.bind_eq_some_iff.mp h
    cases h
    exact ⟨howner, toNat_clampTtl answer.ttl, convertData_eq_some_iff.mp hdata⟩
  · intro h
    obtain ⟨owner, ttl, data⟩ := record
    have httl : ttl = clampTtl answer.ttl := by
      apply UInt32.toNat_inj.mp
      have hspec := toNat_clampTtl answer.ttl
      have hgiven := h.ttl
      dsimp only at hgiven
      omega
    rw [convertAnswerToRecord, h.owner, convertData_eq_some_iff.mpr h.data, httl]
    rfl

theorem conversions_filterMap (Represents : Record L → Prop) (answers : List DnsRecord) :
    Conversions L Represents answers (answers.filterMap (convertAnswerToRecord L)) := by
  induction answers with
  | nil => exact .nil
  | cons answer answers ih =>
    cases h : convertAnswerToRecord L answer with
    | none =>
      rw [List.filterMap_cons_none h]
      refine .skip (fun record hr => ?_) ih
      cases h.symm.trans (convertAnswerToRecord_eq_some_iff.mpr hr)
    | some record =>
      rw [List.filterMap_cons_some h]
      exact .keep (convertAnswerToRecord_eq_some_iff.mp h) ih

end

end Penguind.Forwarder
