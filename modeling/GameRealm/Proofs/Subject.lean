import GameRealm.Proofs.Attachment

/-!
# Whom a session is for

A session is for one account, and it remembers the last character that was attached, also
after that has logged out. What it stores is stored for these.

1. `account_replay`: no run changes the account, since no event does;
2. `characterGuid_apply` and `characterGuid_replay`: only an attachment changes the character
   that is remembered.
-/

namespace GameRealm

namespace Session

variable (config : SessionConfig) (s : Session)

/-- The account, and the character that is remembered. -/
def subject : AccountId × Option PlayerGuid := (s.account, s.characterGuid)

theorem subject_afterShutdown : (s.afterShutdown config).subject = s.subject := by
  unfold afterShutdown
  split
  · rfl
  · cases s.player <;> rfl

theorem subject_afterActivation (socket : SocketId) :
    (s.afterActivation config socket).subject = s.subject := by
  unfold afterActivation
  simp only
  split <;> rfl

theorem subject_afterCreated : (s.afterCreated config).subject = s.subject := by
  unfold afterCreated
  cases s.pending with
  | none => rfl
  | some socket => exact s.subject_afterActivation config socket

theorem subject_afterAdvance (socketOpen : Bool) (now : Instant) :
    (s.afterAdvance config socketOpen now).subject = s.subject := by
  rcases s.afterAdvance_cases config socketOpen now with ⟨_, created⟩ | ⟨_, same | out | off⟩
  · rw [created, subject_afterCreated]
  · rw [same]
  · rw [out]
    rfl
  · rw [off]
    rfl

end Session

/-! ## The account -/

section
variable {sv : Services W}

theorem account_replay (events : List (Event W)) (d : LiveSession W) :
    (d.replay sv events).session.account = d.session.account :=
  replay_induction (P := fun e => e.session.account = d.session.account)
    (fun event e same => (event.account_apply sv e).trans same) events d rfl

/-! ## The last character -/

theorem Operation.characterGuid_after (config : SessionConfig) (socketOpen : Bool)
    (operation : Operation W) (s : Session) :
    (operation.after config socketOpen s).characterGuid =
      ((Event.perform operation).attached?.map (·.guid)).or s.characterGuid := by
  cases operation with
  | setOnline =>
    simp only [after]
    split <;> rfl
  | requestNewSocket socket =>
    simp only [after, Session.afterRequest]
    split <;> rfl
  | kickPlayer save inPlace => cases inPlace <;> rfl
  | shutdown => exact congrArg Prod.snd (Session.subject_afterShutdown ..)
  | _ => rfl

theorem characterGuid_apply (event : Event W) (d : LiveSession W) :
    (event.apply sv d).session.characterGuid =
      (event.attached?.map (·.guid)).or d.session.characterGuid := by
  refine (congrArg Life.characterGuid (event.life_apply sv d)).trans ?_
  cases event with
  | perform operation => exact operation.characterGuid_after _ _ _
  | advance now => exact congrArg Prod.snd (Session.subject_afterAdvance ..)
  | grant queue status opcode =>
    cases queue with
    | generic =>
      simp only [Event.after]
      split <;> rfl
    | map => rfl
  | _ => rfl

/-- A session remembers the character that was attached last. -/
theorem characterGuid_replay (events : List (Event W)) (d : LiveSession W) :
    (d.replay sv events).session.characterGuid =
      ((attachments events).getLast?.map (·.guid)).or d.session.characterGuid := by
  induction events generalizing d with
  | nil => rfl
  | cons event events ih =>
    rw [replay_cons, ih, characterGuid_apply, getLast?_attachments_cons]
    cases (attachments events).getLast? <;> rfl

end

end GameRealm
