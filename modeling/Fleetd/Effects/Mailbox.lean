import Mathlib.Data.List.Basic
import Mathlib.Data.List.Perm.Basic

/-!
# Handlers that publish after their lock

A handler decides under a lock what it has to say and says it after the lock is released. What is
decided waits in an outbox until its handler is scheduled again, so that any waiting item may be
the next one on the channel. The channel is first in, first out, and is kept as a whole.

What concerns one subject is read off the channel and the outbox together. Sending changes its
order at most, and not even that as long as the items of the subject are sent in the order in
which they were posted.
-/

namespace Effects

variable {α : Type}

/-- Items that wait to be sent, in the order they were posted, and items that were sent. -/
structure Mailbox (α : Type) where
  outbox : List α
  channel : List α
  deriving DecidableEq, Repr

namespace Mailbox

def empty : Mailbox α := ⟨[], []⟩

/-- Adds an item that waits to be sent. -/
def post (item : α) (m : Mailbox α) : Mailbox α := { m with outbox := m.outbox ++ [item] }

/-- Sends a waiting item. -/
def send (index : Nat) (m : Mailbox α) : Mailbox α :=
  match m.outbox[index]? with
  | some item => ⟨m.outbox.eraseIdx index, m.channel ++ [item]⟩
  | none => m

/-- What was posted about a subject, sent or not. -/
def about (p : α → Bool) (m : Mailbox α) : List α := m.channel.filter p ++ m.outbox.filter p

/-- No earlier item of the subject waits when one is sent. -/
def InOrder (p : α → Bool) (index : Nat) (m : Mailbox α) : Prop :=
  ∀ item, m.outbox[index]? = some item → p item = true →
    ∀ earlier ∈ m.outbox.take index, p earlier = false

variable {p : α → Bool} {item : α} {index : Nat} {m : Mailbox α}

theorem about_post (p : α → Bool) (item : α) (m : Mailbox α) :
    (m.post item).about p = m.about p ++ [item].filter p := by
  simp [about, post, List.filter_append]

/-- A posted item of the subject is the last one about it. -/
theorem about_post_of_pos (h : p item = true) : (m.post item).about p = m.about p ++ [item] := by
  simp [about_post, h]

/-- Other items do not matter. -/
theorem about_post_of_neg (h : p item = false) : (m.post item).about p = m.about p := by
  simp [about_post, h]

/-- The outbox around an item that is sent. -/
theorem send_of_some (h : m.outbox[index]? = some item) :
    ∃ before after, m.outbox = before ++ item :: after ∧ before = m.outbox.take index ∧
      m.send index = ⟨before ++ after, m.channel ++ [item]⟩ := by
  obtain ⟨hlt, hitem⟩ := List.getElem?_eq_some_iff.1 h
  refine ⟨m.outbox.take index, m.outbox.drop (index + 1), ?_, rfl, ?_⟩
  · rw [← hitem, ← List.drop_eq_getElem_cons hlt, List.take_append_drop]
  · simp [send, h, List.eraseIdx_eq_take_drop_succ]

theorem send_of_none (h : m.outbox[index]? = none) : m.send index = m := by
  simp [send, h]

/-- Sending keeps everything that was posted. -/
theorem about_send_perm (p : α → Bool) (index : Nat) (m : Mailbox α) :
    ((m.send index).about p).Perm (m.about p) := by
  cases h : m.outbox[index]? with
  | none => rw [send_of_none h]
  | some item =>
    obtain ⟨before, after, houtbox, -, hsend⟩ := send_of_some h
    rw [about, about, hsend, houtbox, ← List.filter_append, ← List.filter_append]
    apply List.Perm.filter
    simp only [List.append_assoc, List.singleton_append]
    apply List.Perm.append_left
    exact List.perm_middle.symm

/-- Items of the subject that are sent in order keep their order. -/
theorem about_send (h : m.InOrder p index) : (m.send index).about p = m.about p := by
  cases hitem : m.outbox[index]? with
  | none => rw [send_of_none hitem]
  | some item =>
    obtain ⟨before, after, houtbox, hbefore, hsend⟩ := send_of_some hitem
    rw [about, about, hsend, houtbox]
    simp only [List.filter_append, List.append_assoc, List.filter_cons, List.filter_nil]
    split
    · rename_i hp
      -- the item was the first of its subject, so that it may as well stand before the others
      have hnone : before.filter p = [] := by
        rw [List.filter_eq_nil_iff]
        intro earlier hmem
        rw [h item hitem hp earlier (hbefore ▸ hmem)]
        exact Bool.false_ne_true
      simp [hnone]
    · rfl

/-- An item that is not of the subject is sent. -/
theorem filter_send_of_neg (h : m.outbox[index]? = some item) (hp : p item = false) :
    (m.send index).channel.filter p = m.channel.filter p ∧
      (m.send index).outbox.filter p = m.outbox.filter p := by
  obtain ⟨before, after, houtbox, -, hsend⟩ := send_of_some h
  rw [hsend, houtbox]
  simp [hp]

/-- The only waiting item of the subject is sent. -/
theorem filter_send_of_single {x : α} (h : m.outbox[index]? = some item) (hp : p item = true)
    (hsingle : m.outbox.filter p = [x]) :
    x = item ∧ (m.send index).channel.filter p = m.channel.filter p ++ [item] ∧
      (m.send index).outbox.filter p = [] := by
  obtain ⟨before, after, houtbox, -, hsend⟩ := send_of_some h
  rw [houtbox, List.filter_append, List.filter_cons_of_pos hp] at hsingle
  obtain ⟨hbefore, heq⟩ | ⟨hbefore, heq⟩ := List.append_eq_singleton_iff.1 hsingle
  · rw [List.cons.injEq] at heq
    obtain ⟨rfl, hafter⟩ := heq
    rw [hsend]
    simp [hp, hbefore, hafter]
  · cases heq

/-! ## Items that are posted once -/

/-- Nothing about a subject was posted. -/
structure Unposted (p : α → Bool) (m : Mailbox α) : Prop where
  channel : m.channel.filter p = []
  outbox : m.outbox.filter p = []

/-- The only item about a subject waits. -/
structure Waiting (p : α → Bool) (x : α) (m : Mailbox α) : Prop where
  channel : m.channel.filter p = []
  outbox : m.outbox.filter p = [x]

/-- The only item about a subject was sent. -/
structure Sent (p : α → Bool) (x : α) (m : Mailbox α) : Prop where
  channel : m.channel.filter p = [x]
  outbox : m.outbox.filter p = []

/-- Nothing about a subject differs. -/
structure Same (p : α → Bool) (m m' : Mailbox α) : Prop where
  channel : m'.channel.filter p = m.channel.filter p
  outbox : m'.outbox.filter p = m.outbox.filter p

theorem same_post (h : p item = false) : m.Same p (m.post item) := by
  constructor <;> simp [post, h]

theorem same_send (h : m.outbox[index]? = some item) (hp : p item = false) :
    m.Same p (m.send index) :=
  ⟨(filter_send_of_neg h hp).1, (filter_send_of_neg h hp).2⟩

variable {m' : Mailbox α} {x : α}

theorem Unposted.same (h : m.Unposted p) (hsame : m.Same p m') : m'.Unposted p :=
  ⟨hsame.channel.trans h.channel, hsame.outbox.trans h.outbox⟩

theorem Waiting.same (h : m.Waiting p x) (hsame : m.Same p m') : m'.Waiting p x :=
  ⟨hsame.channel.trans h.channel, hsame.outbox.trans h.outbox⟩

theorem Sent.same (h : m.Sent p x) (hsame : m.Same p m') : m'.Sent p x :=
  ⟨hsame.channel.trans h.channel, hsame.outbox.trans h.outbox⟩

theorem Unposted.post (h : m.Unposted p) (hp : p item = true) : (m.post item).Waiting p item := by
  constructor
  · exact h.channel
  · simp [Mailbox.post, h.outbox, hp]

/-- The only item about a subject is sent. -/
theorem Waiting.send (h : m.Waiting p x) (hitem : m.outbox[index]? = some item) (hp : p item = true) :
    x = item ∧ (m.send index).Sent p x := by
  obtain ⟨rfl, hchannel, houtbox⟩ := filter_send_of_single hitem hp h.outbox
  exact ⟨rfl, by rw [hchannel, h.channel]; rfl, houtbox⟩

/-- What is sent was posted before. -/
theorem all_send_perm (index : Nat) (m : Mailbox α) :
    ((m.send index).channel ++ (m.send index).outbox).Perm (m.channel ++ m.outbox) := by
  have hperm := about_send_perm (fun _ => true) index m
  simpa [about] using hperm

/-- What is sent is the last item on the channel. -/
theorem channel_send (h : m.outbox[index]? = some item) :
    (m.send index).channel = m.channel ++ [item] := by
  obtain ⟨before, after, -, -, hsend⟩ := send_of_some h
  rw [hsend]

/-- What still waits did so before. -/
theorem mem_outbox_of_send {x : α} (h : x ∈ (m.send index).outbox) : x ∈ m.outbox := by
  unfold send at h
  split at h
  · exact List.mem_of_mem_eraseIdx h
  · exact h

/-- Everything that is kept was there before. -/
theorem mem_send {x : α} :
    x ∈ (m.send index).channel ++ (m.send index).outbox ↔ x ∈ m.channel ++ m.outbox := by
  cases h : m.outbox[index]? with
  | none => rw [send_of_none h]
  | some item =>
    obtain ⟨before, after, houtbox, -, hsend⟩ := send_of_some h
    rw [hsend, houtbox]
    simp only [List.mem_append, List.mem_cons]
    tauto

end Mailbox

end Effects
