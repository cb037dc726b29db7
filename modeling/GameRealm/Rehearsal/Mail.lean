import GameRealm.Mailbox

/-!
# A mailbox over a list of numbers

Callbacks that note a number and post further callbacks.
-/

namespace GameRealm.Rehearsal

/-- A callback: it notes a number, and then posts others. -/
inductive NumberedCallback where
  | mk (number : Nat) (others : List NumberedCallback)
  deriving Inhabited

/-- The mailbox, the notes, and a batch that is held back. -/
structure MailboxRun where
  mailbox : Mailbox NumberedCallback := {}
  target : List Nat := []
  held : List NumberedCallback := []

inductive MailStep where
  | post (callback : NumberedCallback)
  /-- Takes the batch and runs it. -/
  | execute
  /-- Takes the batch and holds it back. -/
  | drain
  | runHeld
  | drop

inductive MailResult where
  | nothing
  | accepted (yes : Bool)
  | taken (count : Nat)
  | gone

namespace MailboxRun

def runCallback (d : MailboxRun) : NumberedCallback → MailboxRun
  | .mk number others =>
    { d with
      target := d.target ++ [number]
      mailbox := others.foldl (fun mailbox callback => (mailbox.post callback).2) d.mailbox }

def step (d : MailboxRun) : MailStep → MailResult × MailboxRun
  | .post callback =>
    let (accepted, mailbox) := d.mailbox.post callback
    (.accepted accepted, { d with mailbox })
  | .execute =>
    if d.mailbox.live then
      let (batch, mailbox) := d.mailbox.drain
      (.nothing, batch.foldl runCallback { d with mailbox })
    else (.gone, d)
  | .drain =>
    if d.mailbox.live then
      let (batch, mailbox) := d.mailbox.drain
      (.taken batch.length, { d with mailbox, held := d.held ++ batch })
    else (.gone, d)
  | .runHeld => (.nothing, d.held.foldl runCallback { d with held := [] })
  | .drop => (.nothing, { d with mailbox := d.mailbox.close })

/-- Does steps one after the other, and tells each result with the notes. -/
def run : List MailStep → MailboxRun → List (MailResult × List Nat)
  | [], _ => []
  | s :: steps, d =>
    let (result, d) := d.step s
    (result, d.target) :: run steps d

end MailboxRun

@[deprecated NumberedCallback (since := "2026-11-20")]
abbrev Memo := NumberedCallback

@[deprecated MailboxRun.run (since := "2026-11-20")]
abbrev Desktop.run := @MailboxRun.run

end GameRealm.Rehearsal
