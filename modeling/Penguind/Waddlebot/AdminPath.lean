import Penguind.Foundation.Url

/-!
# Arguments in the path of an admin request

The client pastes a provider name or a workflow id into the text of the URL. What the request is
for is decided when the text is parsed.
-/

namespace Penguind.Waddlebot

open Foundation

structure AdminConfig where
  path : List Char
  communityId : Int64
  path_slash : path.head?.all (· == '/')
  path_visible : Url.Visible path

inductive Endpoint
  | disconnectMusicProvider
  | getWorkflow
  | updateWorkflow
  | deleteWorkflow

namespace Endpoint

def resource : Endpoint → List Char
  | disconnectMusicProvider => "/music/providers".toList
  | getWorkflow | updateWorkflow | deleteWorkflow => "/workflows".toList

def suffix (e : Endpoint) (arg : String) : List Char := e.resource ++ '/' :: arg.toList

theorem exists_resource (e : Endpoint) :
    ∃ pre r, Url.Visible pre ∧ Url.Ordinary r ∧ e.resource = pre ++ '/' :: r := by
  cases e with
  | disconnectMusicProvider =>
    exact ⟨"/music".toList, "providers".toList, by decide,
      ⟨by decide, by simp [Url.isSlash], by decide, by decide⟩, rfl⟩
  | getWorkflow | updateWorkflow | deleteWorkflow =>
    exact ⟨[], "workflows".toList, by decide,
      ⟨by decide, by simp [Url.isSlash], by decide, by decide⟩, rfl⟩

end Endpoint

namespace AdminConfig

variable (c : AdminConfig)

/-- The text behind the authority. -/
def adminUrl (suffix : List Char) : List Char :=
  c.path.rdropWhile (· == '/') ++ "/admin/".toList ++
    (toString c.communityId.toInt).toList ++ suffix

/-- The request goes to the resource and one segment for the argument, without a query. -/
def Addressed (e : Endpoint) (arg : String) : Prop :=
  (∃ s, Url.resolve (c.adminUrl (e.suffix arg)) = Url.resolve (c.adminUrl e.resource) ++ [s] ∧
    Url.decode s = arg.toList.flatMap String.utf8EncodeChar) ∧
  Url.query (c.adminUrl (e.suffix arg)) = none

theorem mem_toString {n : Int} {d : Char} (hd : d ∈ (toString n).toList) : d = '-' ∨ d.isDigit := by
  have hnat {m : Nat} (hm : d ∈ Nat.toDigits 10 m) : d.isDigit :=
    Nat.isDigit_of_mem_toDigits (by decide) le_rfl hm
  cases n with
  | ofNat m => exact .inr (hnat (Nat.toList_repr ▸ hd))
  | negSucc m =>
    obtain rfl | hd := List.mem_cons.mp (by simpa [Int.toString_eq_repr, Int.repr] using hd)
    · exact .inl rfl
    · exact .inr (hnat hd)

theorem exists_adminUrl :
    ∃ xs, Url.Visible ('/' :: xs) ∧ ∀ suffix, c.adminUrl suffix = '/' :: (xs ++ suffix) := by
  have hbase : Url.Visible (c.path.rdropWhile (· == '/')) := fun d hd =>
    c.path_visible d ((List.rdropWhile_prefix _ _).subset hd)
  have hid : Url.Visible (toString c.communityId.toInt).toList := by
    intro d hd
    obtain rfl | hdigit := mem_toString hd
    · decide
    · simp only [Url.isTabOrNewline, Bool.or_eq_false_iff, beq_eq_false_iff_ne]
      refine ⟨⟨⟨?_, ?_⟩, ?_⟩, ?_, ?_⟩ <;> rintro rfl <;> exact absurd hdigit (by decide)
  have hadmin : Url.Visible "/admin/".toList := by decide
  have hall : Url.Visible (c.adminUrl []) := by
    rw [adminUrl, List.append_nil]
    exact List.forall_mem_append.mpr ⟨List.forall_mem_append.mpr ⟨hbase, hadmin⟩, hid⟩
  have hhead : (c.adminUrl []).head? = some '/' := by
    have hprefix := List.rdropWhile_prefix (· == '/') c.path
    cases hpath : c.path.rdropWhile (· == '/') with
    | nil => rw [adminUrl, hpath]; rfl
    | cons d rest =>
      obtain ⟨tail, htail⟩ := hpath ▸ hprefix
      have hslash := c.path_slash
      rw [← htail] at hslash
      simpa [adminUrl, hpath] using hslash
  obtain ⟨xs, hxs⟩ := List.head?_eq_some_iff.mp hhead
  refine ⟨xs, hxs ▸ hall, fun suffix => ?_⟩
  rw [← List.cons_append, ← hxs]
  simp [adminUrl]

end AdminConfig

def exampleConfig : AdminConfig := ⟨"/api/v1/".toList, 1, rfl, by decide⟩

end Penguind.Waddlebot
