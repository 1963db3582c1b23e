import LanguageClient.Proofs.Frame.Stream
import LanguageClient.Proofs.Session.Effect

/-!
# What the read loop reads

The read loop takes the entries of the stream from the server one after the other, each
once, while the stream comes in, up to the end of the stream or a fatal error.
-/

namespace LanguageClient

/-! ## Entries of a run -/

/-- The entry of the stream that the read loop takes with its next step. -/
def Session.taken? (session : Session) : Option Frame.Entry :=
  match session.loop with
  | .reading => (Frame.read session.inbound).taken?
  | _ => none

namespace Transition

/-- The entry of the stream that the read loop takes. -/
def taken? (transition : Transition) : Option Frame.Entry :=
  match transition.action with
  | .read => transition.before.taken?
  | _ => none

def sentBytes (transition : Transition) : List UInt8 :=
  match transition.action with
  | .serverWrites bytes => bytes
  | _ => []

end Transition

/-- The bytes that the server has written in a run. -/
def sentBytes (past : List Transition) : List UInt8 :=
  past.flatMap Transition.sentBytes

theorem sentBytes_concat (past : List Transition) (transition : Transition) :
    sentBytes (past ++ [transition]) = sentBytes past ++ transition.sentBytes := by
  simp [sentBytes]

/-- Why the read loop ends behind an attempt to read. -/
def Frame.Outcome.lossReason? : Frame.Outcome → Option String
  | .fatal error => some error.message
  | .finished => some Session.endReason
  | .frame _ _ | .malformed _ _ | .blocked => none

namespace Session

/-- What an action does to the stream from the server and to the loop that reads it. -/
inductive InboundMove (session : Session) (action : Action) (after : Session) : Prop
  | apart :
      Transition.taken? ⟨session, action, after⟩ = none →
      Transition.sentBytes ⟨session, action, after⟩ = [] →
      after.inbound = session.inbound →
      (after.loop = .reading ↔ session.loop = .reading) →
      InboundMove session action after
  | grows (bytes : List UInt8) :
      action = .serverWrites bytes →
      session.loop = .reading →
      session.inbound.ending = .open →
      after.inbound = ⟨session.inbound.bytes ++ bytes, .open⟩ →
      after.loop = .reading →
      InboundMove session action after
  | ends (ending : StreamEnd) :
      action = .serverEnds ending →
      session.inbound.ending = .open →
      after.inbound = ⟨session.inbound.bytes, ending⟩ →
      after.loop = session.loop →
      InboundMove session action after
  | takes {rest : List UInt8} :
      action = .read →
      session.loop = .reading →
      (Frame.read session.inbound).rest? = some rest →
      after.inbound = ⟨rest, session.inbound.ending⟩ →
      after.loop = .reading →
      InboundMove session action after
  | loses {reason : String} :
      action = .read →
      session.loop = .reading →
      (Frame.read session.inbound).lossReason? = some reason →
      after.inbound = session.inbound →
      after.loop = .lost reason →
      InboundMove session action after

theorem dispatch_inbound (session : Session) (value : Json) :
    (session.dispatch value).inbound = session.inbound := by
  rcases session.dispatch_cases value with
    ⟨id, answer, _, equality⟩ | ⟨id, method, params, records, _, equality⟩ |
      ⟨_, diagnostics, records, equality⟩
  · rw [equality]
    unfold deliver
    cases id.nat? <;> rfl
  · rw [equality]
    rfl
  · rw [equality]

private theorem inboundMove_of_read
    {session after : Session} (applied : session.readStep = some after) :
    InboundMove session .read after := by
  have takesNothing (ended : session.loop ≠ .reading) :
      Transition.taken? ⟨session, .read, after⟩ = none := by
    simp only [Transition.taken?, taken?]
  unfold readStep at applied
  split at applied
  · rename_i reading
    split at applied
    · rename_i value rest read
      injection applied with applied
      subst applied
      let passed : Session := { session with inbound := ⟨rest, session.inbound.ending⟩ }
      exact .takes rfl reading (by rw [read]; rfl) (passed.dispatch_inbound value)
        ((passed.dispatch_leaves value).1.trans reading)
    · rename_i error rest read
      injection applied with applied
      subst applied
      exact .takes rfl reading (by rw [read]; rfl) rfl reading
    · rename_i error read
      injection applied with applied
      subst applied
      exact .loses rfl reading (by rw [read]; rfl) rfl rfl
    · rename_i read
      injection applied with applied
      subst applied
      exact .loses rfl reading (by rw [read]; rfl) rfl rfl
    · cases applied
  · rename_i reason lost
    injection applied with applied
    have ended : session.loop ≠ .reading := by simp [lost]
    exact .apart (takesNothing ended) rfl (by rw [← applied]) (by simp [← applied, lost])
  · rename_i reason leaving
    injection applied with applied
    have ended : session.loop ≠ .reading := by simp [leaving]
    exact .apart (takesNothing ended) rfl (by rw [← applied]) (by simp [← applied, leaving])
  · cases applied

theorem inboundMove_of_apply
    {session after : Session} {action : Action} (applied : session.apply action = some after) :
    InboundMove session action after := by
  cases action with
  | advance task portion =>
      cases effect_of_apply applied with
      | advanced | ended => exact .apart rfl rfl rfl Iff.rfl
      | handled handlers noTask notRead => cases noTask
  | abandon task =>
      cases effect_of_apply applied with
      | abandoned => exact .apart rfl rfl rfl Iff.rfl
      | handled handlers noTask notRead => cases noTask
  | read => exact inboundMove_of_read applied
  | serverWrites bytes =>
      simp only [apply] at applied
      split at applied
      · rename_i takes
        injection applied with applied
        simp only [takesBytes, Bool.and_eq_true, decide_eq_true_eq] at takes
        obtain ⟨reading, isOpen⟩ := takes
        exact .grows bytes rfl reading isOpen (by rw [← applied, isOpen]) (by rw [← applied, reading])
      · cases applied
  | serverEnds ending =>
      simp only [apply] at applied
      split at applied
      · rename_i isOpen
        injection applied with applied
        exact .ends ending rfl isOpen (by rw [← applied]) (by rw [← applied])
      · cases applied
  | serverTakes | serverExits =>
      simp only [apply] at applied
      split at applied <;> cases applied
      exact .apart rfl rfl rfl Iff.rfl
  | start | cancel | registerNotification | registerRequest | serverStopsReading | elapse
  | changeFiles =>
      injection applied with applied
      subst applied
      exact .apart rfl rfl rfl Iff.rfl

end Session

/-- The session behind an entry of the stream. -/
def Session.passTo (session : Session) (rest : List UInt8) : Session :=
  { session with inbound := ⟨rest, session.inbound.ending⟩ }

namespace Session

/-- The read loop has to wait for more bytes, or it is over. -/
theorem blocked_of_readStep
    {session : Session} (waits : session.readStep = none) :
    session.loop = .finished ∨
      session.loop = .reading ∧ Frame.read session.inbound = .blocked := by
  unfold readStep at waits
  split at waits
  · rename_i reading
    split at waits
    · cases waits
    · cases waits
    · cases waits
    · cases waits
    · rename_i blocked
      exact Or.inr ⟨reading, blocked⟩
  · cases waits
  · cases waits
  · rename_i finished
    exact Or.inl finished

end Session

/-! ## Reading along -/

namespace Session

/-- The entries that are still to be read if some bytes and an end come behind those that
are there. -/
def unread (session : Session) (more : List UInt8) (ending : StreamEnd) : List Frame.Entry :=
  match session.loop with
  | .reading => Frame.readAll ⟨session.inbound.bytes ++ more, ending⟩
  | _ => []

theorem unread_of_reading
    {session : Session} (reading : session.loop = .reading) (more : List UInt8)
    (ending : StreamEnd) :
    session.unread more ending = Frame.readAll ⟨session.inbound.bytes ++ more, ending⟩ := by
  simp only [unread, reading]

theorem unread_of_ended
    {session : Session} (ended : session.loop ≠ .reading) (more : List UInt8)
    (ending : StreamEnd) : session.unread more ending = [] := by
  unfold unread
  split
  · rename_i reading
    exact absurd reading ended
  · rfl

end Session

/-- What was read and what is still to be read are the record of all that the server writes,
whatever it may still write. -/
structure ReadsAlong (past : List Transition) (session : Session) : Prop where
  record : ∀ more ending, Frame.Continues session.inbound.ending more ending →
    past.filterMap Transition.taken? ++ session.unread more ending =
      Frame.readAll ⟨sentBytes past ++ more, ending⟩
  isOpen : session.inbound.ending = .open → session.loop = .reading

namespace ReadsAlong

variable {past : List Transition} {session after : Session} {action : Action}

/-- The read loop ends only when no more bytes can come. -/
private theorem ending_ne_open
    {reason : String} (loses : (Frame.read session.inbound).lossReason? = some reason) :
    session.inbound.ending ≠ .open := by
  generalize session.inbound = stream at loses
  intro isOpen
  obtain ⟨bytes, _⟩ := stream
  cases isOpen
  rcases Frame.read_open bytes with ⟨rest, goesOn⟩ | blocked
  · generalize Frame.read ⟨bytes, .open⟩ = outcome at loses goesOn
    cases outcome with
    | frame | malformed | blocked => cases loses
    | fatal | finished => cases goesOn
  · rw [blocked] at loses
    cases loses

private theorem taken?_concat (transition : Transition) :
    (past ++ [transition]).filterMap Transition.taken? =
      past.filterMap Transition.taken? ++ transition.taken?.toList := by
  rw [List.filterMap_append]
  cases entry : transition.taken? <;> simp [entry]

private theorem takes
    {rest : List UInt8} (along : ReadsAlong past session) (reading : session.loop = .reading)
    (goesOn : (Frame.read session.inbound).rest? = some rest)
    (inbound : after.inbound = ⟨rest, session.inbound.ending⟩) (stays : after.loop = .reading) :
    ReadsAlong (past ++ [⟨session, .read, after⟩]) after := by
  refine ⟨fun more ending continues => ?_, fun _ => stays⟩
  rw [inbound] at continues
  have entry : Transition.taken? ⟨session, .read, after⟩ = (Frame.read session.inbound).taken? := by
    simp only [Transition.taken?, Session.taken?, reading]
  have before := along.record more ending continues
  rw [Session.unread_of_reading reading,
    Frame.readAll_append_of_rest? goesOn continues] at before
  rw [taken?_concat, entry, Session.unread_of_reading stays, inbound, sentBytes_concat,
    List.append_assoc]
  simpa [Transition.sentBytes] using before

private theorem loses
    {reason : String} (along : ReadsAlong past session) (reading : session.loop = .reading)
    (loses : (Frame.read session.inbound).lossReason? = some reason)
    (inbound : after.inbound = session.inbound) (lost : after.loop = .lost reason) :
    ReadsAlong (past ++ [⟨session, .read, after⟩]) after := by
  have unopened := ending_ne_open loses
  refine ⟨fun more ending continues => ?_, fun isOpen => absurd (inbound ▸ isOpen) unopened⟩
  rw [inbound] at continues
  have entry : Transition.taken? ⟨session, .read, after⟩ = (Frame.read session.inbound).taken? := by
    simp only [Transition.taken?, Session.taken?, reading]
  have ended : after.loop ≠ .reading := by simp [lost]
  have nothing : (Frame.read session.inbound).rest? = none := by
    generalize Frame.read session.inbound = outcome at loses
    cases outcome with
    | frame | malformed | blocked => cases loses
    | fatal | finished => rfl
  have before := along.record more ending continues
  cases continues with
  | more _ _ isOpen => exact absurd isOpen unopened
  | nothing =>
      rw [Session.unread_of_reading reading, List.append_nil, Frame.readAll_eq, nothing,
        Option.elim_none, List.append_nil] at before
      rw [taken?_concat, entry, Session.unread_of_ended ended, sentBytes_concat, List.append_nil]
      simpa [Transition.sentBytes] using before

theorem move
    (along : ReadsAlong past session) (move : Session.InboundMove session action after) :
    ReadsAlong (past ++ [⟨session, action, after⟩]) after := by
  cases move with
  | apart noEntry nothing inbound sameLoop =>
      refine ⟨fun more ending continues => ?_, fun isOpen => ?_⟩
      · have unread : after.unread more ending = session.unread more ending := by
          by_cases reading : session.loop = .reading
          · rw [Session.unread_of_reading reading,
              Session.unread_of_reading (sameLoop.mpr reading), inbound]
          · rw [Session.unread_of_ended reading,
              Session.unread_of_ended (fun stays => reading (sameLoop.mp stays))]
        rw [inbound] at continues
        rw [taken?_concat, noEntry, unread, sentBytes_concat, nothing, List.append_nil]
        simpa using along.record more ending continues
      · exact sameLoop.mpr (along.isOpen (inbound ▸ isOpen))
  | grows bytes isAction reading isOpen inbound stays =>
      -- The bytes that come in were among those that might still come.
      subst isAction
      refine ⟨fun more ending _ => ?_, fun _ => stays⟩
      have before := along.record (bytes ++ more) ending (.more _ _ isOpen)
      rw [Session.unread_of_reading reading] at before
      rw [taken?_concat, Session.unread_of_reading stays, inbound, sentBytes_concat]
      simpa [Transition.taken?, Transition.sentBytes] using before
  | ends ending isAction isOpen inbound sameLoop =>
      subst isAction
      have reading := along.isOpen isOpen
      have stays := sameLoop.trans reading
      refine ⟨fun more ending' _ => ?_, fun _ => stays⟩
      have before := along.record more ending' (.more _ _ isOpen)
      rw [Session.unread_of_reading reading] at before
      rw [taken?_concat, Session.unread_of_reading stays, inbound, sentBytes_concat]
      simpa [Transition.taken?, Transition.sentBytes] using before
  | takes isAction reading goesOn inbound stays =>
      subst isAction
      exact along.takes reading goesOn inbound stays
  | loses isAction reading loses inbound lost =>
      subst isAction
      exact along.loses reading loses inbound lost

end ReadsAlong

/-- The read loop reads the stream from the server along, in every run. -/
theorem Run.readsAlong
    {client : Client} {session : Session} {past : List Transition}
    (run : Run (Session.connect client) past session) : ReadsAlong past session := by
  induction run with
  | refl => exact ⟨fun more ending _ => rfl, fun _ => rfl⟩
  | step _ applied along => exact along.move (Session.inboundMove_of_apply applied)

end LanguageClient
