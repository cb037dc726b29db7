import GameRealm.Proofs.History

/-!
# What reaches a mailbox

Whatever happens to a session, all that happens to its mailbox is that callbacks are left
in it, one after another, until a world tick takes them. So a mailbox with an owner keeps
what it has and gathers more behind it, and one whose owner is gone stays as it is.
-/

namespace GameRealm

namespace Mailbox

variable {m n : Mailbox α}

/-- Callbacks are left in the mailbox, one after another. -/
def postAll (m : Mailbox α) (callbacks : List α) : Mailbox α :=
  callbacks.foldl (fun m callback => (m.post callback).2) m

theorem postAll_live (live : m.live = true) (callbacks : List α) :
    m.postAll callbacks = { m with pending := m.pending ++ callbacks } := by
  induction callbacks generalizing m with
  | nil => simp [postAll]
  | cons callback rest ih =>
    have posted : (m.post callback).2 = { m with pending := m.pending ++ [callback] } := by
      rw [post, if_pos live]
    change (m.post callback).2.postAll rest = _
    rw [posted, ih (by exact live)]
    simp

theorem postAll_gone (gone : m.live = false) (callbacks : List α) : m.postAll callbacks = m := by
  induction callbacks with
  | nil => rfl
  | cons callback rest ih =>
    have refused : (m.post callback).2 = m := by simp [post, gone]
    change (m.post callback).2.postAll rest = m
    rw [refused, ih]

/-- One mailbox comes from another by leaving callbacks in it. -/
def Fills (m n : Mailbox α) : Prop := ∃ callbacks, n = m.postAll callbacks

theorem fills_of_eq (h : n = m) : m.Fills n := ⟨[], h⟩

theorem fills_post (callback : α) : m.Fills (m.post callback).2 := ⟨[callback], rfl⟩

theorem Fills.trans {k : Mailbox α} (first : m.Fills n) (second : n.Fills k) : m.Fills k := by
  obtain ⟨early, rfl⟩ := first
  obtain ⟨late, rfl⟩ := second
  exact ⟨early ++ late, by rw [postAll, postAll, postAll, List.foldl_append]⟩

theorem Fills.pending (fills : m.Fills n) : m.pending <+: n.pending := by
  obtain ⟨callbacks, rfl⟩ := fills
  cases live : m.live with
  | true =>
    rw [postAll_live live]
    exact List.prefix_append ..
  | false =>
    have same : m.postAll callbacks = m := postAll_gone live callbacks
    exact same.symm ▸ List.prefix_refl _

theorem Fills.gone (fills : m.Fills n) (gone : m.live = false) : n = m := by
  obtain ⟨callbacks, rfl⟩ := fills
  exact postAll_gone gone callbacks

end Mailbox

section
variable {sv : Services W}

namespace LiveInbox

theorem fills_run {deeper : Envelope → LiveInbox W → LiveInbox W}
    (fills : ∀ env (r : LiveInbox W), r.inbox.mailbox.Fills (deeper env r).inbox.mailbox)
    (p : InboxAct W α) (r : LiveInbox W) :
    r.inbox.mailbox.Fills (run sv deeper p r).2.inbox.mailbox := by
  induction p generalizing r with
  | finish => exact Mailbox.fills_of_eq rfl
  | look next ih => exact ih _ _ r
  | post callback next ih => exact (Mailbox.fills_post callback).trans (ih _ _)
  | enqueue env next ih => exact (fills env r).trans (ih _)
  | deleteMovementPackets next ih => exact ih _
  | remark speaker text next ih => exact ih _

theorem fills_receive
    {immediately : (AccountId → Envelope → InboxAct W Handled) → Envelope → LiveInbox W →
      LiveInbox W} (env : Envelope)
    (fills : ∀ handler (r : LiveInbox W),
      r.inbox.mailbox.Fills (immediately handler env r).inbox.mailbox)
    (r : LiveInbox W) : r.inbox.mailbox.Fills (receive sv immediately env r).inbox.mailbox := by
  unfold receive
  simp only
  split
  · exact fills _ _
  · exact Mailbox.fills_of_eq rfl
  · exact Mailbox.fills_of_eq rfl

theorem fills_enqueueWithin (depth : Nat) (env : Envelope) (r : LiveInbox W) :
    r.inbox.mailbox.Fills (enqueueWithin sv depth env r).inbox.mailbox := by
  induction depth generalizing env r with
  | zero => exact fills_receive env (fun _ _ => Mailbox.fills_of_eq rfl) r
  | succ depth ih =>
    rw [enqueueWithin]
    exact fills_receive env (fun _ r => fills_run ih _ r) r

end LiveInbox

/-- Only a world tick takes callbacks out of the mailbox. -/
theorem Event.fills {event : Event W} (other : event ≠ .takeCallbacks) (d : LiveSession W) :
    d.inbox.mailbox.Fills (event.apply sv d).inbox.mailbox := by
  cases event with
  | perform operation =>
    cases operation with
    | enqueue env => exact LiveInbox.fills_enqueueWithin _ env d.toLiveInbox
    | deleteMovementPackets => exact Mailbox.fills_of_eq rfl
    | loadGlobalAccountData =>
      exact Mailbox.fills_of_eq (congrArg _ (d.frame_fetchAccountData _ _).2)
    | resetTimeSync => exact Mailbox.fills_of_eq rfl
    | _ => exact Mailbox.fills_of_eq (by simp [Event.apply, Operation.run])
  | post callback => exact Mailbox.fills_post callback
  | takeCallbacks => exact absurd rfl other
  | takeBacklog queue => cases queue <;> exact Mailbox.fills_of_eq rfl
  | grant queue status opcode =>
    refine Mailbox.fills_of_eq ?_
    cases queue with
    | generic => simp only [Event.apply, Queue.admitted, LiveSession.noteAdmission]; split <;> rfl
    | map => rfl
  | leave queue left =>
    refine Mailbox.fills_of_eq ?_
    cases queue with
    | generic => simp only [Event.apply]; split <;> rfl
    | map => rfl
  | _ => exact Mailbox.fills_of_eq (by simp [Event.apply])

end

end GameRealm
