import Penguind.Foundation.Json
import Penguind.Foundation.Replace

/-!
# The bridge relays a hub call

The result of a hub call, or the text of the error, goes back to the script without the community
access token: every string of it is scrubbed, which replaces the token by its mask.
-/

namespace Penguind.Waddlebot

open Foundation

def maskSecret (value : String) : String :=
  if value = "" then ""
  else if value.toList.length ≤ 4 then "****"
  else String.ofList ("****".toList ++ value.toList.drop (value.toList.length - 4))

def Contains (input secret : String) : Prop := secret.toList <:+: input.toList

instance (input secret : String) : Decidable (Contains input secret) :=
  inferInstanceAs (Decidable (secret.toList <:+: input.toList))

def scrubString (input secret : String) : String :=
  if secret = "" ∨ ¬ Contains input secret then input
  else String.ofList (replace secret.toList (maskSecret secret).toList input.toList)

def scrubValue (value : Value) (secret : String) : Value :=
  value.mapTexts fun text => scrubString text secret

/-! ## The client

The values are those the client has decoded; fields the bridge does not read are left out. -/

inductive ErrorBody
  | structured (code message : String)
  | plain (message : String)
  | unparsed (raw : String)

def ErrorBody.display : ErrorBody → String
  | .structured code message => code ++ ": " ++ message
  | .plain message => message
  | .unparsed raw => raw

inductive WaddlebotError
  | setup (message : String)
  | transport (message : String)
  | auth (code : UInt16) (body : ErrorBody)
  | status (code : UInt16) (body : ErrorBody)
  | decode (message : String)

def WaddlebotError.display : WaddlebotError → String
  | .setup message => "failed to set up HTTP client: " ++ message
  | .transport message => "transport error: " ++ message
  | .auth code body => "authentication rejected (HTTP " ++ toString code ++ "): " ++ body.display
  | .status code body => "HTTP " ++ toString code ++ ": " ++ body.display
  | .decode message => "failed to decode response: " ++ message

structure Community where
  id : Int64
  name : String
  displayName : String
  role : String

structure MusicSettings where
  defaultProvider : Option String
  autoplayEnabled : Bool
  volumeLimit : Int64
  allowedGenres : List String
  blockedArtists : List String
  requireDjApproval : Bool
  isActive : Bool

structure MusicSettingsUpdate where
  defaultProvider : Option String := none
  autoplayEnabled : Option Bool := none
  volumeLimit : Option Int64 := none
  allowedGenres : Option (List String) := none
  blockedArtists : Option (List String) := none
  requireDjApproval : Option Bool := none
  isActive : Option Bool := none

structure Announcement where
  id : Int64
  title : String
  content : String
  announcementType : String
  status : String
  isPinned : Bool

structure NewAnnouncement where
  title : String
  content : String
  announcementType : Option String
  isPinned : Option Bool
  status : Option String

structure BrowserSource where
  sourceType : String
  url : String
  isActive : Bool

structure Hub where
  listMyCommunities : Except WaddlebotError (List Community)
  getMusicSettings : Except WaddlebotError MusicSettings
  updateMusicSettings : MusicSettingsUpdate → Except WaddlebotError MusicSettings
  listAnnouncements : Option String → Except WaddlebotError (List Announcement)
  createAnnouncement : NewAnnouncement → Except WaddlebotError Announcement
  listBrowserSources : Except WaddlebotError (List BrowserSource)

inductive RelayError
  | invalidParams (message : String)
  | hub (message : String)

def RelayError.message : RelayError → String
  | .invalidParams message => message
  | .hub message => message

inductive Operation
  | getStatus
  | getMusicSettings
  | updateMusicSettings
  | listAnnouncements
  | createAnnouncement
  | listBrowserSources
  deriving DecidableEq, Repr

def hubError (err : WaddlebotError) : RelayError := .hub err.display

def communityJson (community : Community) : Value :=
  .object
    [("id", .int community.id.toInt), ("name", .string community.name),
      ("display_name", .string community.displayName), ("role", .string community.role)]

def textOrNull : Option String → Value
  | some text => .string text
  | none => .null

def musicSettingsJson (settings : MusicSettings) : Value :=
  .object
    [("default_provider", textOrNull settings.defaultProvider),
      ("autoplay_enabled", .bool settings.autoplayEnabled),
      ("volume_limit", .int settings.volumeLimit.toInt),
      ("allowed_genres", .array (settings.allowedGenres.map .string)),
      ("blocked_artists", .array (settings.blockedArtists.map .string)),
      ("require_dj_approval", .bool settings.requireDjApproval),
      ("is_active", .bool settings.isActive)]

def announcementJson (announcement : Announcement) : Value :=
  .object
    [("id", .int announcement.id.toInt), ("title", .string announcement.title),
      ("content", .string announcement.content), ("status", .string announcement.status),
      ("announcement_type", .string announcement.announcementType),
      ("is_pinned", .bool announcement.isPinned)]

def browserSourceJson (source : BrowserSource) : Value :=
  .object
    [("source_type", .string source.sourceType), ("url", .string source.url),
      ("is_active", .bool source.isActive)]

def stringArray (values : List Value) : List String := values.filterMap Value.asStr

def musicSettingsUpdateFromParams (params : Value) : MusicSettingsUpdate where
  defaultProvider := (params.get "default_provider").bind Value.asStr
  autoplayEnabled := (params.get "autoplay_enabled").bind Value.asBool
  volumeLimit := (params.get "volume_limit").bind Value.asI64
  allowedGenres := ((params.get "allowed_genres").bind Value.asArray).map stringArray
  blockedArtists := ((params.get "blocked_artists").bind Value.asArray).map stringArray
  requireDjApproval := (params.get "require_dj_approval").bind Value.asBool
  isActive := (params.get "is_active").bind Value.asBool

def AnnouncementParams.fromValue (params : Value) : Except RelayError NewAnnouncement :=
  match (params.get "title").bind Value.asStr with
  | none => .error (.invalidParams "\"title\" is required")
  | some title =>
    match (params.get "content").bind Value.asStr with
    | none => .error (.invalidParams "\"content\" is required")
    | some content =>
      .ok
        { title, content
          announcementType := (params.get "announcement_type").bind Value.asStr
          isPinned := (params.get "is_pinned").bind Value.asBool
          status := (params.get "status").bind Value.asStr }

def dispatch (client : Hub) (op : Operation) (params : Value) : Except RelayError Value :=
  match op with
  | .getStatus => do
    let communities ← client.listMyCommunities.mapError hubError
    return .object [("communities", .array (communities.map communityJson))]
  | .getMusicSettings => do
    let settings ← client.getMusicSettings.mapError hubError
    return musicSettingsJson settings
  | .updateMusicSettings => do
    let update := musicSettingsUpdateFromParams params
    let settings ← (client.updateMusicSettings update).mapError hubError
    return musicSettingsJson settings
  | .listAnnouncements => do
    let status := (params.get "status").bind Value.asStr
    let announcements ← (client.listAnnouncements status).mapError hubError
    return .object [("announcements", .array (announcements.map announcementJson))]
  | .createAnnouncement => do
    let newAnnouncement ← AnnouncementParams.fromValue params
    let announcement ← (client.createAnnouncement newAnnouncement).mapError hubError
    return announcementJson announcement
  | .listBrowserSources => do
    let sources ← client.listBrowserSources.mapError hubError
    return .object [("sources", .array (sources.map browserSourceJson))]

def relay (client : Hub) (cat : String) (op : Operation) (params : Value) :
    Except RelayError Value :=
  match dispatch client op params with
  -- the names of the fields stay as they are
  | .ok value => .ok (scrubValue value cat)
  | .error (.invalidParams message) => .error (.invalidParams (scrubString message cat))
  | .error (.hub message) => .error (.hub (scrubString message cat))

def exposed : Except RelayError Value → List String
  | .ok value => value.keys ++ value.texts
  | .error err => [err.message]

/-! ## The mask -/

section Mask

variable {cat : String}

theorem toList_ne_nil (h : cat ≠ "") : cat.toList ≠ [] := by
  intro hnil
  exact h (String.toList_inj.mp (hnil.trans String.toList_empty.symm))

theorem toList_maskSecret_short (h : cat ≠ "") (hlen : cat.toList.length ≤ 4) :
    (maskSecret cat).toList = List.replicate 4 '*' := by
  rw [maskSecret, if_neg h, if_pos hlen]
  rfl

theorem toList_maskSecret_long (h : cat ≠ "") (hlen : ¬ cat.toList.length ≤ 4) :
    (maskSecret cat).toList =
      List.replicate 4 '*' ++ cat.toList.drop (cat.toList.length - 4) := by
  rw [maskSecret, if_neg h, if_neg hlen, String.toList_ofList]
  rfl

theorem replicate_prefix_maskSecret (h : cat ≠ "") :
    List.replicate 4 '*' <+: (maskSecret cat).toList := by
  by_cases hlen : cat.toList.length ≤ 4
  · rw [toList_maskSecret_short h hlen]
  · rw [toList_maskSecret_long h hlen]
    exact List.prefix_append _ _

theorem maskSecret_ne_nil (h : cat ≠ "") : (maskSecret cat).toList ≠ [] := by
  intro hnil
  have hle := (replicate_prefix_maskSecret h).length_le
  rw [hnil, List.length_replicate] at hle
  exact absurd hle (by decide)

theorem suffix_stars {u : List Char} (h : cat ≠ "") (hu : u <+: (maskSecret cat).toList)
    (hlen : u.length ≤ 4) : u <:+ List.replicate 4 '*' := by
  have hpre : u <+: List.replicate 4 '*' :=
    List.prefix_of_prefix_length_le hu (replicate_prefix_maskSecret h) (by simpa using hlen)
  rw [List.suffix_replicate_iff]
  exact List.prefix_replicate_iff.mp hpre

theorem suffix_maskSecret (h : cat ≠ "") {p : List Char} (hend : p <:+ cat.toList)
    (hmask : p <+: (maskSecret cat).toList) : p <:+ (maskSecret cat).toList := by
  by_cases hshort : cat.toList.length ≤ 4
  · have hp : p.length ≤ 4 := hend.length_le.trans hshort
    rw [toList_maskSecret_short h hshort]
    exact suffix_stars h hmask hp
  · have hlast : (cat.toList.drop (cat.toList.length - 4)).length = 4 := by
      rw [List.length_drop]
      omega
    have hmax : p.length ≤ 8 := by
      have hle := hmask.length_le
      rw [toList_maskSecret_long h hshort, List.length_append, hlast] at hle
      exact hle
    by_cases hp : p.length ≤ 4
    · -- both are ends of the secret, and the shorter one is an end of the other
      rw [toList_maskSecret_long h hshort]
      refine (List.suffix_of_suffix_length_le hend (List.drop_suffix _ _) ?_).trans
        (List.suffix_append _ _)
      rw [hlast]
      exact hp
    · -- `p` ends with the last four letters, and stars stand before them
      obtain ⟨u, hu⟩ : cat.toList.drop (cat.toList.length - 4) <:+ p := by
        refine List.suffix_of_suffix_length_le (List.drop_suffix _ _) hend ?_
        rw [hlast]
        omega
      have hulen : u.length ≤ 4 := by
        have hsum := congrArg List.length hu
        rw [List.length_append, hlast] at hsum
        omega
      have hupre : u <+: (maskSecret cat).toList :=
        (List.prefix_append u _).trans (hu ▸ hmask)
      obtain ⟨v, hv⟩ := suffix_stars h hupre hulen
      rw [toList_maskSecret_long h hshort, ← hv, ← hu, List.append_assoc]
      exact List.suffix_append _ _

end Mask

section Scrubbed

variable {cat : String}

theorem toList_scrubString (h : cat ≠ "") (text : String) :
    (scrubString text cat).toList = replace cat.toList (maskSecret cat).toList text.toList := by
  rw [scrubString]
  split_ifs with hno
  · have hno : ¬ cat.toList <:+: text.toList := hno.resolve_left h
    rw [replace_eq_self hno]
  · rw [String.toList_ofList]

theorem not_contains_scrubString (h : cat ≠ "")
    (hsep : ¬ Overlap cat.toList (maskSecret cat).toList) (text : String) :
    ¬ Contains (scrubString text cat) cat := by
  rw [Contains, toList_scrubString h]
  exact not_infix_replace (toList_ne_nil h) hsep text.toList

theorem exists_contains_scrubString (h : cat ≠ "")
    (hover : Overlap cat.toList (maskSecret cat).toList) :
    ∃ text, Contains (scrubString text cat) cat := by
  obtain ⟨s, hs⟩ := exists_infix_replace (toList_ne_nil h) (maskSecret_ne_nil h)
    (fun p _ _ hend hmask => suffix_maskSecret h hend hmask) hover
  refine ⟨String.ofList s, ?_⟩
  rw [Contains, toList_scrubString h, String.toList_ofList]
  exact hs

end Scrubbed

/-! ## What a script sees -/

theorem mem_exposed_relay {client : Hub} {cat : String} {op : Operation} {params : Value}
    {s : String} :
    s ∈ exposed (relay client cat op params) ↔
      (∃ value, dispatch client op params = .ok value ∧
        (s ∈ value.keys ∨ ∃ text ∈ value.texts, scrubString text cat = s)) ∨
      ∃ err, dispatch client op params = .error err ∧ scrubString err.message cat = s := by
  rw [relay]
  cases dispatch client op params with
  | ok value =>
    simp [exposed, scrubValue, Value.keys_mapTexts, Value.texts_mapTexts]
  | error err =>
    cases err with
    | invalidParams message => simp [exposed, RelayError.message, eq_comm]
    | hub message => simp [exposed, RelayError.message, eq_comm]

def Operation.resultKeys : Operation → List String
  | .getStatus => ["communities", "id", "name", "display_name", "role"]
  | .getMusicSettings | .updateMusicSettings =>
    ["default_provider", "autoplay_enabled", "volume_limit", "allowed_genres", "blocked_artists",
      "require_dj_approval", "is_active"]
  | .listAnnouncements =>
    ["announcements", "id", "title", "content", "status", "announcement_type", "is_pinned"]
  | .createAnnouncement => ["id", "title", "content", "status", "announcement_type", "is_pinned"]
  | .listBrowserSources => ["sources", "source_type", "url", "is_active"]

theorem mapError_bind_eq_ok {A : Type} {answer : Except WaddlebotError A} {render : A → Value}
    {value : Value} :
    (do let a ← answer.mapError hubError; return render a : Except RelayError Value) = .ok value ↔
      ∃ a, answer = .ok a ∧ render a = value := by
  cases answer with
  | error e => simp [Except.mapError, bind, Except.bind]
  | ok a => simp [Except.mapError, bind, Except.bind, pure, Except.pure]

theorem mem_keys_list {A : Type} {name key : String} {render : A → Value} {items : List A}
    {names : List String} (hnames : ∀ a, (render a).keys = names)
    (h : key ∈ (Value.object [(name, .array (items.map render))]).keys) :
    key ∈ name :: names := by
  simp only [Value.keys, Value.fieldKeys, List.append_nil, List.mem_cons,
    Value.mem_itemKeys_map, hnames] at h ⊢
  obtain h | ⟨a, -, h⟩ := h
  · exact .inl h
  · exact .inr h

theorem keys_musicSettingsJson (settings : MusicSettings) :
    (musicSettingsJson settings).keys = Operation.resultKeys .getMusicSettings := by
  have htexts : ∀ texts : List String, Value.itemKeys (texts.map .string) = [] := by
    intro texts
    induction texts with
    | nil => rfl
    | cons text texts ih => rw [List.map_cons, Value.itemKeys, ih, Value.keys, List.append_nil]
  have hprovider : (textOrNull settings.defaultProvider).keys = [] := by
    cases settings.defaultProvider <;> rfl
  simp [musicSettingsJson, Value.keys, Value.fieldKeys, htexts, hprovider, Operation.resultKeys]

theorem keys_of_dispatch {client : Hub} {op : Operation} {params value : Value} {key : String}
    (h : dispatch client op params = .ok value) (hkey : key ∈ value.keys) :
    key ∈ op.resultKeys := by
  cases op with
  | getStatus =>
    obtain ⟨communities, -, rfl⟩ := mapError_bind_eq_ok.mp h
    exact mem_keys_list (fun _ => rfl) hkey
  | getMusicSettings =>
    obtain ⟨settings, -, rfl⟩ := mapError_bind_eq_ok.mp h
    rwa [keys_musicSettingsJson] at hkey
  | updateMusicSettings =>
    obtain ⟨settings, -, rfl⟩ := mapError_bind_eq_ok.mp h
    rwa [keys_musicSettingsJson] at hkey
  | listAnnouncements =>
    obtain ⟨announcements, -, rfl⟩ := mapError_bind_eq_ok.mp h
    exact mem_keys_list (fun _ => rfl) hkey
  | createAnnouncement =>
    cases hparams : AnnouncementParams.fromValue params with
    | error err =>
      rw [dispatch, hparams] at h
      cases h
    | ok newAnnouncement =>
      rw [dispatch, hparams] at h
      obtain ⟨announcement, -, rfl⟩ := mapError_bind_eq_ok.mp h
      exact hkey
  | listBrowserSources =>
    obtain ⟨sources, -, rfl⟩ := mapError_bind_eq_ok.mp h
    exact mem_keys_list (fun _ => rfl) hkey

def echoHub (text : String) : Hub :=
  let settings : MusicSettings := ⟨none, false, 0, [text], [], false, false⟩
  let announcement : Announcement := ⟨0, text, "", "", "", false⟩
  { listMyCommunities := .ok [⟨0, text, "", ""⟩]
    getMusicSettings := .ok settings
    updateMusicSettings := fun _ => .ok settings
    listAnnouncements := fun _ => .ok [announcement]
    createAnnouncement := fun _ => .ok announcement
    listBrowserSources := .ok [⟨"", text, false⟩] }

def completeParams : Value := .object [("title", .string ""), ("content", .string "")]

theorem dispatch_echoHub (op : Operation) (text : String) :
    ∃ value, dispatch (echoHub text) op completeParams = .ok value ∧ text ∈ value.texts ∧
      value.keys = op.resultKeys := by
  cases op <;> refine ⟨_, rfl, ?_, rfl⟩ <;>
    simp [communityJson, musicSettingsJson, announcementJson, browserSourceJson, Value.texts,
      Value.itemTexts, Value.fieldTexts, textOrNull]

/-- **No result contains the token** exactly if it does not overlap with its mask and is in no field
name. -/
theorem relay_hides_token_iff (cat : String) (hcat : cat ≠ "") (op : Operation) :
    (∀ client params, ∀ s ∈ exposed (relay client cat op params), ¬ Contains s cat) ↔
      ¬ Overlap cat.toList (maskSecret cat).toList ∧
        ∀ key ∈ op.resultKeys, ¬ Contains key cat := by
  constructor
  · intro h
    constructor
    · intro hover
      -- a hub that echoes a text of which the scrubber makes one with the token in it
      obtain ⟨text, htext⟩ := exists_contains_scrubString hcat hover
      obtain ⟨value, hvalue, hmem, -⟩ := dispatch_echoHub op text
      refine h (echoHub text) completeParams (scrubString text cat) ?_ htext
      exact mem_exposed_relay.mpr (.inl ⟨value, hvalue, .inr ⟨text, hmem, rfl⟩⟩)
    · intro key hkey
      -- every operation has a hub and parameters that bring out all of its field names
      obtain ⟨value, hvalue, -, hkeys⟩ := dispatch_echoHub op ""
      refine h (echoHub "") completeParams key ?_
      exact mem_exposed_relay.mpr (.inl ⟨value, hvalue, .inl (hkeys ▸ hkey)⟩)
  · rintro ⟨hsep, hkeys⟩ client params s hs
    obtain ⟨value, hvalue, hkey | ⟨text, -, rfl⟩⟩ | ⟨err, -, rfl⟩ := mem_exposed_relay.mp hs
    · exact hkeys s (keys_of_dispatch hvalue hkey)
    · exact not_contains_scrubString hcat hsep text
    · exact not_contains_scrubString hcat hsep err.message

theorem relay_hides_token_apart :
    "wdl_c_supersecrettoken" ≠ "" ∧
    ∀ client params, ∀ s ∈ exposed (relay client "wdl_c_supersecrettoken" .getStatus params),
      ¬ Contains s "wdl_c_supersecrettoken" :=
  ⟨by decide,
    (relay_hides_token_iff "wdl_c_supersecrettoken" (by decide) .getStatus).mpr (by decide)⟩

theorem relay_leaks_overlapping_token :
    ∃ s ∈ exposed (relay { echoHub "" with
        listMyCommunities := .error (.status 502 (.unparsed "wdl_c_abcwdl_c_abcw")) }
        "wdl_c_abcw" .getStatus .null), Contains s "wdl_c_abcw" :=
  ⟨"HTTP 502: ****abcwdl_c_abcw", by decide, by decide⟩

end Penguind.Waddlebot
