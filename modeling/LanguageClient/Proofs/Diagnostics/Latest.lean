import LanguageClient.Proofs.Diagnostics.Form
import LanguageClient.Session.Basic

/-!
# The latest diagnostics of a document

A cache that took the parameters of publications one after the other holds for each URI what
the last one that could be read and named this URI said.  Parameters that cannot be read as a
whole change nothing, and what a version says plays no part.
-/

namespace LanguageClient

open Json (unlessNull)

namespace DiagnosticsCache

/-! ## One publication -/

/-- Whether parameters can be read, as a whole, as a publication. -/
def Publishes (params : Option Json) (publication : Publication) : Prop :=
  ∃ value, params = some value ∧ Publication.decode value = .ok publication

/-- The cache after parameters came; those that are not taken leave it as it is. -/
def receive (cache : DiagnosticsCache) (params : Option Json) : DiagnosticsCache :=
  match cache.publish params with
  | .ok cache => cache
  | .error _ => cache

section Publication

variable {cache : DiagnosticsCache} {params : Option Json} {publication : Publication}
  {uri : String}

theorem Publishes.unique
    {publication' : Publication} (publishes : Publishes params publication)
    (publishes' : Publishes params publication') :
    publication = publication' := by
  obtain ⟨value, rfl, reads⟩ := publishes
  obtain ⟨_, same, reads'⟩ := publishes'
  cases same
  exact Except.ok.inj (reads.symm.trans reads')

theorem publish_of_publishes (publishes : Publishes params publication) :
    cache.publish params = .ok (cache.update publication) := by
  obtain ⟨value, rfl, reads⟩ := publishes
  simp only [publish, reads]

theorem publish_of_not_publishes
    (cache : DiagnosticsCache) (unreadable : ∀ publication, ¬ Publishes params publication) :
    ∃ error, cache.publish params = .error error := by
  cases params with
  | none => exact ⟨.withoutParams, rfl⟩
  | some value =>
      cases reads : Publication.decode value with
      | ok publication => exact absurd ⟨value, rfl, reads⟩ (unreadable publication)
      | error error => exact ⟨.unreadable error, by simp only [publish, reads]⟩

theorem receive_of_publishes (publishes : Publishes params publication) :
    cache.receive params = cache.update publication := by
  simp only [receive, publish_of_publishes publishes]

theorem receive_of_not_publishes (unreadable : ∀ publication, ¬ Publishes params publication) :
    cache.receive params = cache := by
  obtain ⟨error, refused⟩ := publish_of_not_publishes cache unreadable
  simp only [receive, refused]

/-- A publication replaces what was there for its URI as a whole, and nothing else. -/
theorem get_update (cache : DiagnosticsCache) (publication : Publication) (uri : String) :
    (cache.update publication).get uri =
      if publication.uri = uri then publication.diagnostics else cache.get uri := by
  by_cases same : publication.uri = uri
  · simp [get, update, same]
  · have others : (fun entry : String × Publication =>
        decide (decide (entry.1 ≠ publication.uri) = true ∧ decide (entry.1 = uri) = true)) =
          fun entry => decide (entry.1 = uri) := by
      funext entry
      by_cases isUri : entry.1 = uri
      · simp [isUri, Ne.symm same]
      · simp [isUri]
    simp only [get, update, List.find?_cons, same, decide_false, List.find?_filter, others,
      if_false]

theorem get_receive_of_ne
    (others : ∀ publication, Publishes params publication → publication.uri ≠ uri) :
    (cache.receive params).get uri = cache.get uri := by
  by_cases readable : ∃ publication, Publishes params publication
  · obtain ⟨publication, publishes⟩ := readable
    rw [receive_of_publishes publishes, get_update, if_neg (others publication publishes)]
  · rw [receive_of_not_publishes (not_exists.mp readable)]

end Publication

/-! ## Many publications -/

/-- The cache after the parameters of a history, which starts with nothing published. -/
def after (history : List (Option Json)) : DiagnosticsCache := history.foldl receive empty

/-- Parameters that do not name a URI leave what is known of it. -/
theorem get_foldl_receive_of_ne
    {history : List (Option Json)} {uri : String}
    (others : ∀ params, params ∈ history →
      ∀ publication, Publishes params publication → publication.uri ≠ uri)
    (cache : DiagnosticsCache) :
    (history.foldl receive cache).get uri = cache.get uri := by
  induction history generalizing cache with
  | nil => rfl
  | cons params history inductionHypothesis =>
      obtain ⟨first, others⟩ := List.forall_mem_cons.mp others
      rw [List.foldl_cons, inductionHypothesis others, get_receive_of_ne first]

/-! ## Versions -/

/-- Whether the part of a publication that is its version can be read: it is missing, null or
a number of thirty-two bits. -/
def IsVersion (part : Option Json) : Prop :=
  ∃ version : Option Int, unlessNull part = version.map .int ∧
    ∀ number, version = some number →
      -(Nat.pow 2 31 : Nat) ≤ number ∧ number < (Nat.pow 2 31 : Nat)

inductive SameButVersion : Option Json → Option Json → Prop
  | same (params : Option Json) : SameButVersion params params
  | version {value value' : Json} :
      value.isOrdered → value'.isOrdered →
      (value.IsRecord 3 ↔ value'.IsRecord 3) →
      value.part? "uri" 0 = value'.part? "uri" 0 →
      value.part? "diagnostics" 2 = value'.part? "diagnostics" 2 →
      IsVersion (value.part? "version" 1) → IsVersion (value'.part? "version" 1) →
      SameButVersion (some value) (some value')

theorem SameButVersion.symm {params params' : Option Json} (same : SameButVersion params params') :
    SameButVersion params' params := by
  cases same with
  | same => exact .same _
  | version ordered ordered' isRecord uri diagnostics isVersion isVersion' =>
      exact .version ordered' ordered isRecord.symm uri.symm diagnostics.symm isVersion' isVersion

theorem SameButVersion.publishes
    {params params' : Option Json} {publication : Publication}
    (same : SameButVersion params params') (publishes : Publishes params publication) :
    ∃ version, Publishes params' { publication with version } := by
  cases same with
  | same => exact ⟨publication.version, publishes⟩
  | @version value value' ordered ordered' isRecord uri diagnostics isVersion isVersion' =>
      obtain ⟨_, isValue, reads⟩ := publishes
      cases isValue
      have tells := (Publication.decode_eq_ok_iff ordered).mp reads
      obtain ⟨version, isVersion', isWithin⟩ := isVersion'
      refine ⟨version, value', rfl, (Publication.decode_eq_ok_iff ordered').mpr ?_⟩
      exact {
        isRecord := isRecord.mp tells.isRecord
        uri := uri ▸ tells.uri
        version := isVersion'
        version_within := isWithin
        diagnostics := diagnostics ▸ tells.diagnostics }

/-- Parameters that differ in their versions do the same to the diagnostics. -/
theorem SameButVersion.get_receive
    {params params' : Option Json} (same : SameButVersion params params')
    {cache cache' : DiagnosticsCache} (alike : ∀ uri, cache'.get uri = cache.get uri)
    (uri : String) :
    (cache'.receive params').get uri = (cache.receive params).get uri := by
  by_cases readable : ∃ publication, Publishes params publication
  · obtain ⟨publication, publishes⟩ := readable
    obtain ⟨version, publishes'⟩ := same.publishes publishes
    rw [receive_of_publishes publishes, receive_of_publishes publishes', get_update, get_update,
      alike]
  · have unreadable' (publication : Publication) : ¬ Publishes params' publication :=
      fun publishes' =>
        let ⟨_, publishes⟩ := same.symm.publishes publishes'
        readable ⟨_, publishes⟩
    rw [receive_of_not_publishes (not_exists.mp readable), receive_of_not_publishes unreadable',
      alike]

theorem get_foldl_receive_of_sameButVersion
    {history history' : List (Option Json)} (same : List.Forall₂ SameButVersion history history')
    {cache cache' : DiagnosticsCache} (alike : ∀ uri, cache'.get uri = cache.get uri)
    (uri : String) :
    (history'.foldl receive cache').get uri = (history.foldl receive cache).get uri := by
  induction same generalizing cache cache' with
  | nil => exact alike uri
  | cons first _ inductionHypothesis => exact inductionHypothesis (first.get_receive alike)

/-! ## The last publication -/

/-- What a cache tells after a history, and what further parameters do to it. -/
structure HoldsLatest (history : List (Option Json)) : Prop where
  /-- What can be read is told by the parts of the value. -/
  readable : ∀ value publication, value.isOrdered →
    (Publishes (some value) publication ↔ Publication.Tells value publication)
  latest : ∀ earlier params later publication, history = earlier ++ params :: later →
    Publishes params publication →
    (∀ other, other ∈ later →
      ∀ publication', Publishes other publication' → publication'.uri ≠ publication.uri) →
    (after history).get publication.uri = publication.diagnostics
  unpublished : ∀ uri,
    (∀ params, params ∈ history →
      ∀ publication, Publishes params publication → publication.uri ≠ uri) →
    (after history).get uri = []
  accepted : ∀ params publication, Publishes params publication →
    (after history).publish params = .ok (after (history ++ [params]))
  refused : ∀ params, (∀ publication, ¬ Publishes params publication) →
    (∃ error, (after history).publish params = .error error) ∧
      after (history ++ [params]) = after history
  others : ∀ params uri,
    (∀ publication, Publishes params publication → publication.uri ≠ uri) →
    (after (history ++ [params])).get uri = (after history).get uri
  version : ∀ history', List.Forall₂ SameButVersion history history' →
    ∀ uri, (after history').get uri = (after history).get uri

theorem after_concat (history : List (Option Json)) (params : Option Json) :
    after (history ++ [params]) = (after history).receive params := by
  rw [after, List.foldl_append]
  rfl

/-- Whatever came, the cache holds the last diagnostics of each URI. -/
theorem holdsLatest (history : List (Option Json)) : HoldsLatest history where
  readable := by
    intro value publication ordered
    rw [← Publication.decode_eq_ok_iff ordered]
    exact ⟨fun ⟨_, same, reads⟩ => Option.some.inj same ▸ reads, fun reads => ⟨value, rfl, reads⟩⟩
  latest := by
    rintro earlier params later publication rfl publishes isLast
    rw [after, List.foldl_append, List.foldl_cons, get_foldl_receive_of_ne isLast,
      receive_of_publishes publishes, get_update, if_pos rfl]
  unpublished := fun uri noPublication => get_foldl_receive_of_ne noPublication empty
  accepted := by
    intro params publication publishes
    rw [after_concat, receive_of_publishes publishes, publish_of_publishes publishes]
  refused := by
    intro params unreadable
    rw [after_concat]
    exact ⟨publish_of_not_publishes _ unreadable, receive_of_not_publishes unreadable⟩
  others := by
    intro params uri others
    rw [after_concat, get_receive_of_ne others]
  version := fun history' same =>
    get_foldl_receive_of_sameButVersion same fun _ => rfl

end DiagnosticsCache

/-! ## Notifications -/

/-- The handler of publications brings the parameters of a notification to the cache. -/
theorem Session.diagnostics_handleNotification
    {session : Session} {method : String}
    (registered : session.client.handlers.notification? method = some .publishDiagnostics)
    (params : Option Json) :
    (session.handleNotification method params).client.diagnostics =
      session.client.diagnostics.receive params := by
  unfold handleNotification DiagnosticsCache.receive
  simp only [registered, NotificationHandler.handle]
  cases session.client.diagnostics.publish params with
  | ok cache => rfl
  | error error => rfl

end LanguageClient
