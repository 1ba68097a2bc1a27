import NodeWatch.Manager
import NodeWatch.Proofs.Exporter
import NodeWatch.Proofs.Hub.Invariant
import NodeWatch.Proofs.Mailbox

/-!
# Notifications of a manager

A session is a manager with the calls that its monitors make, in the order in which they make them.
Whatever they do, and whenever the manager is started, cancelled or dropped, its loop processes the
conditions of the first calls, in this order, and of each call once. The main statement is
`Manager.Session.run_inOrder`.
-/

namespace NodeWatch.Manager

/-- The loop takes the oldest notification and exports it. -/
def exportOne (m : Manager) : Option (Receipt Notification) × List LogRecord × Manager :=
  match m.mailbox.receive with
  | (none, mailbox) => (none, [], { m with mailbox })
  | (some receipt, mailbox) =>
    let (record, exporter) := m.exporter.take receipt.item
    (some receipt, record.toList, { m with mailbox, exporter })

/-- The loop takes so many notifications. -/
def exportTimes : Nat → Manager → List LogRecord × Manager
  | 0, m => ([], m)
  | n + 1, m =>
    let (_, records, m) := m.exportOne
    let (more, m) := exportTimes n m
    (records ++ more, m)

lemma exportAll_of_running {m : Manager} (hrunning : m.phase = .running) :
    m.exportAll = ({ exported := (m.exporter.takeAll m.mailbox.drain.1).1 },
      { m with
        mailbox := m.mailbox.drain.2
        exporter := (m.exporter.takeAll m.mailbox.drain.1).2 }) := by
  rw [exportAll, hrunning]

/-- The manager after a notification has been taken. -/
def afterTaking (m : Manager) (n : Notification) (mailbox : Mailbox Notification) : Manager :=
  { m with mailbox, exporter := (m.exporter.take n).2 }

@[simp] lemma afterTaking_mailbox (m : Manager) (n : Notification)
    (mailbox : Mailbox Notification) : (m.afterTaking n mailbox).mailbox = mailbox := rfl

lemma exportOne_of_none {m : Manager} {mailbox : Mailbox Notification}
    (h : m.mailbox.receive = (none, mailbox)) : m.exportOne = (none, [], m) := by
  obtain rfl : mailbox = m.mailbox := by
    rw [Mailbox.receive] at h
    split at h
    · exact (congrArg Prod.snd h).symm
    all_goals cases h
  rw [exportOne, h]

lemma exportOne_of_some {m : Manager} {receipt : Receipt Notification}
    {mailbox : Mailbox Notification} (h : m.mailbox.receive = (some receipt, mailbox)) :
    m.exportOne = (some receipt, (m.exporter.take receipt.item).1.toList,
      m.afterTaking receipt.item mailbox) := by
  rw [exportOne, h]
  rfl

lemma exportAll_of_some {m : Manager} (hrunning : m.phase = .running)
    (hm : m.mailbox.WellFormed) (hcapacity : 0 < m.mailbox.capacity)
    {receipt : Receipt Notification} {mailbox : Mailbox Notification}
    (h : m.mailbox.receive = (some receipt, mailbox)) :
    let rest := (m.afterTaking receipt.item mailbox).exportAll
    m.exportAll =
      ({ exported := (m.exporter.take receipt.item).1.toList ++ rest.1.exported }, rest.2) := by
  intro rest
  have hdrain := hm.drain_eq hcapacity
  rw [h] at hdrain
  have hrest : rest = _ := exportAll_of_running (m := m.afterTaking receipt.item mailbox) hrunning
  rw [exportAll_of_running hrunning, hdrain, hrest]
  rfl

/-- Exporting everything is exporting one notification after the other. -/
lemma exportAll_eq_exportTimes {m : Manager} (hrunning : m.phase = .running)
    (hm : m.mailbox.WellFormed) (hcapacity : 0 < m.mailbox.capacity) :
    let n := m.mailbox.buffered.length + m.mailbox.waiting.length
    m.exportAll = ({ exported := (m.exportTimes n).1 }, (m.exportTimes n).2) := by
  intro n
  induction hn : n generalizing m with
  | zero =>
    have hbuffered : m.mailbox.buffered = [] := List.length_eq_zero_iff.mp (by omega)
    have hwaiting : m.mailbox.waiting = [] := List.length_eq_zero_iff.mp (by omega)
    obtain ⟨hub, ⟨capacity, buffered, waiting, nextTicket, isClosed⟩, exporter, phase, kernels⟩ := m
    obtain rfl : buffered = [] := hbuffered
    obtain rfl : waiting = [] := hwaiting
    exact exportAll_of_running hrunning
  | succ n' ih =>
    obtain ⟨receipt, mailbox, hreceive, hn'⟩ : ∃ receipt mailbox,
        m.mailbox.receive = (some receipt, mailbox) ∧
        mailbox.buffered.length + mailbox.waiting.length = n' := by
      rcases hm.receive_cases hcapacity with ⟨hbuffered, hwaiting, -⟩ |
        ⟨item, items, hbuffered, hwaiting, hreceive⟩ |
        ⟨item, items, call, calls, hbuffered, hwaiting, hreceive⟩
      · simp [n, hbuffered, hwaiting] at hn
      · exact ⟨_, _, hreceive, by simp_all [n]⟩
      · refine ⟨_, _, hreceive, ?_⟩
        simp only [n, hbuffered, hwaiting, List.length_cons, List.length_append,
          List.length_nil] at hn ⊢
        omega
    have hmailbox := hm.receive hcapacity
    have hcapacity' := m.mailbox.capacity_receive ▸ hcapacity
    rw [hreceive] at hmailbox hcapacity'
    have hrest := ih (m := m.afterTaking receipt.item mailbox) hrunning hmailbox hcapacity' hn'
    rw [exportAll_of_some hrunning hm hcapacity hreceive]
    simp only [hrest, exportTimes, exportOne_of_some hreceive]

/-- The manager goes away, and its mailbox with it. -/
def abandon (m : Manager) : Manager :=
  { m with phase := .gone, mailbox := m.mailbox.close }

/-! ### Sessions -/

/-- A call of a monitor through its handle; `answer` is what it has been told so far. -/
structure Call where
  handle : Nat
  notification : Notification
  answer : SendResult

namespace Call

/-- The call that waits with this ticket is accepted. -/
def accept (c : Call) (ticket : Option Nat) : Call :=
  if ticket.map SendResult.waits = some c.answer then { c with answer := .accepted } else c

/-- A call that still waits is refused. -/
def refuse (c : Call) : Call :=
  match c.answer with
  | .waits _ => { c with answer := .closed }
  | _ => c

end Call

inductive Operation where
  | notify (handle : Nat) (n : Notification)
  | start
  /-- The loop of a started manager takes its next step. -/
  | loop
  | cancel
  /-- The manager is dropped, whether it has been started or not. -/
  | drop

structure Session where
  manager : Manager
  /-- All calls, in the order in which they were made. -/
  calls : List Call := []
  /-- The notifications that the loop has taken. -/
  processed : List Notification := []
  exported : List LogRecord := []
  /-- The notifications that were in the mailbox when the manager went away. -/
  lost : List Notification := []

namespace Session

def new (root : Rootfs) : Session :=
  { manager := .new root }

def notify (s : Session) (handle : Nat) (n : Notification) : Session :=
  let (answer, manager) := s.manager.notify n
  { s with manager, calls := s.calls ++ [⟨handle, n, answer⟩] }

/-- The manager goes away; what waits in its mailbox is lost, and calls that wait are refused. -/
def leave (s : Session) : Session :=
  { s with
    manager := s.manager.abandon
    calls := s.calls.map Call.refuse
    lost := s.lost ++ s.manager.mailbox.buffered }

/-- The loop takes the oldest notification, if there is one. -/
def process (s : Session) : Session :=
  match s.manager.exportOne with
  | (none, _, _) => s
  | (some receipt, records, manager) =>
    { s with
      manager
      calls := s.calls.map (Call.accept · receipt.accepted)
      processed := s.processed ++ [receipt.item]
      exported := s.exported ++ records }

/-- The loop looks for a cancellation before it takes a notification. -/
def loop (s : Session) : Session :=
  match s.manager.phase with
  | .launched => { s with manager := s.manager.beginLoop }
  | .running => if s.manager.hub.isCancelled then s.leave else s.process
  | _ => s

def step (s : Session) : Operation → Session
  | .notify handle n => s.notify handle n
  | .start => { s with manager := s.manager.launch }
  | .loop => s.loop
  | .cancel => { s with manager := s.manager.cancel }
  | .drop => s.leave

def run (s : Session) (ops : List Operation) : Session :=
  ops.foldl step s

/-! ### What holds at any time -/

/-- The calls that wait in a mailbox. -/
def Waits (calls : List Call) (waiting : List (WaitingCall Notification)) : Prop :=
  calls.map (fun c => (c.answer, c.notification)) =
    waiting.map fun call => (.waits call.ticket, call.item)

lemma Waits.exists_ticket {calls : List Call} {waiting : List (WaitingCall Notification)}
    (h : Waits calls waiting) {c : Call} (hc : c ∈ calls) :
    ∃ ticket ∈ waiting.map WaitingCall.ticket, c.answer = .waits ticket := by
  have hmem : (c.answer, c.notification) ∈
      waiting.map fun call => (SendResult.waits call.ticket, call.item) :=
    h ▸ List.mem_map.mpr ⟨c, hc, rfl⟩
  obtain ⟨call, hcall, heq⟩ := List.mem_map.mp hmem
  exact ⟨call.ticket, List.mem_map_of_mem hcall, (congrArg Prod.fst heq).symm⟩

/-- Which calls have entered the mailbox, which wait, and which have been refused. -/
structure Split (s : Session) (entered waiting refused : List Call) : Prop where
  calls : s.calls = entered ++ waiting ++ refused
  accepted : ∀ c ∈ entered, c.answer = .accepted
  entries : entered.map Call.notification = s.processed ++ s.lost ++ s.manager.mailbox.buffered
  waits : Waits waiting s.manager.mailbox.waiting
  closed : ∀ c ∈ refused, c.answer = .closed
  open_refused : s.manager.mailbox.isClosed = false → refused = []

structure Invariant (s : Session) : Prop where
  mailbox : s.manager.mailbox.WellFormed
  capacity : s.manager.mailbox.capacity = mailboxCapacity
  gone : s.manager.mailbox.isClosed = true ↔ s.manager.phase = .gone
  kept : s.manager.mailbox.isClosed = false → s.lost = []
  exported : ({} : Exporter).takeAll s.processed = (s.exported, s.manager.exporter)
  split : ∃ entered waiting refused, s.Split entered waiting refused

lemma Invariant.new (root : Rootfs) : (new root).Invariant where
  mailbox := .empty mailboxCapacity
  capacity := rfl
  gone := by simp [Session.new, Manager.new]
  kept _ := rfl
  exported := rfl
  split := ⟨[], [], [], rfl, by simp, rfl, rfl, by simp, fun _ => rfl⟩

lemma Invariant.notify {s : Session} (hs : s.Invariant) (handle : Nat) (n : Notification) :
    (s.notify handle n).Invariant := by
  obtain ⟨entered, waiting, refused, hsplit⟩ := hs.split
  have hmailbox := hs.mailbox.send n
  rcases hs.mailbox.send_cases n with ⟨hclosed, hsend⟩ | ⟨hopen, hnone, hroom, hsend⟩ |
    ⟨hopen, hfull, hsend⟩
  · rw [hsend] at hmailbox
    rw [Session.notify, Manager.notify, hsend]
    refine ⟨hmailbox, hs.capacity, hs.gone, hs.kept, hs.exported,
      entered, waiting, refused ++ [⟨handle, n, .closed⟩], ?_, hsplit.accepted, hsplit.entries,
      hsplit.waits, ?_, ?_⟩
    · simp [hsplit.calls]
    · simpa [or_imp, forall_and] using hsplit.closed
    · simp [hclosed]
  · rw [hsend] at hmailbox
    rw [Session.notify, Manager.notify, hsend]
    refine ⟨hmailbox, hs.capacity, hs.gone, hs.kept, hs.exported,
      entered ++ [⟨handle, n, .accepted⟩], [], [], ?_, ?_, ?_, ?_, by simp, fun _ => rfl⟩
    · have hwaiting : waiting = [] := by simpa [Waits, hnone] using hsplit.waits
      simp [hsplit.calls, hwaiting, hsplit.open_refused hopen]
    · simpa [or_imp, forall_and] using hsplit.accepted
    · simp [hsplit.entries]
    · simp [Waits, hnone]
  · rw [hsend] at hmailbox
    rw [Session.notify, Manager.notify, hsend]
    refine ⟨hmailbox, hs.capacity, hs.gone, hs.kept, hs.exported,
      entered, waiting ++ [⟨handle, n, .waits s.manager.mailbox.nextTicket⟩], [], ?_,
      hsplit.accepted, hsplit.entries, ?_, by simp, fun _ => rfl⟩
    · simp [hsplit.calls, hsplit.open_refused hopen]
    · simpa [Waits] using hsplit.waits

lemma accept_of_ne {c : Call} {ticket : Nat} (h : c.answer ≠ .waits ticket) :
    c.accept (some ticket) = c :=
  if_neg fun heq => h (Option.some.inj heq).symm

lemma map_accept_accepted {calls : List Call} (h : ∀ c ∈ calls, c.answer = .accepted)
    (ticket : Nat) : calls.map (Call.accept · (some ticket)) = calls :=
  (List.map_congr_left fun c hc => accept_of_ne (by simp [h c hc])).trans (List.map_id _)

/-- The call with a ticket is not among calls that wait with others. -/
lemma map_accept_waiting {calls : List Call} {waiting : List (WaitingCall Notification)}
    (h : Waits calls waiting) {ticket : Nat} (hticket : ticket ∉ waiting.map WaitingCall.ticket) :
    calls.map (Call.accept · (some ticket)) = calls := by
  refine (List.map_congr_left fun c hc => accept_of_ne fun hwaits => ?_).trans (List.map_id _)
  obtain ⟨other, hother, heq⟩ := h.exists_ticket hc
  rw [hwaits] at heq
  exact hticket (SendResult.waits.inj heq ▸ hother)

lemma process_of_none {s : Session} {mailbox : Mailbox Notification}
    (h : s.manager.mailbox.receive = (none, mailbox)) : s.process = s := by
  rw [process, exportOne, h]

lemma process_of_some {s : Session} {receipt : Receipt Notification}
    {mailbox : Mailbox Notification} (h : s.manager.mailbox.receive = (some receipt, mailbox)) :
    s.process = { s with
      manager := s.manager.afterTaking receipt.item mailbox
      calls := s.calls.map (Call.accept · receipt.accepted)
      processed := s.processed ++ [receipt.item]
      exported := s.exported ++ (s.manager.exporter.take receipt.item).1.toList } := by
  rw [process, exportOne_of_some h]

lemma Invariant.exported_concat {s : Session} (hs : s.Invariant) (n : Notification) :
    ({} : Exporter).takeAll (s.processed ++ [n]) =
      (s.exported ++ (s.manager.exporter.take n).1.toList, (s.manager.exporter.take n).2) := by
  simp [Exporter.takeAll_append, hs.exported, Exporter.takeAll]

lemma Invariant.process {s : Session} (hs : s.Invariant) : s.process.Invariant := by
  obtain ⟨entered, waiting, refused, hsplit⟩ := hs.split
  have hcapacity : 0 < s.manager.mailbox.capacity := by rw [hs.capacity]; decide
  have hmailbox := hs.mailbox.receive hcapacity
  rcases hs.mailbox.receive_cases hcapacity with ⟨-, -, hreceive⟩ |
    ⟨item, items, hbuffered, hnone, hreceive⟩ |
    ⟨item, items, call, calls, hbuffered, hwaiting, hreceive⟩
  · rwa [process_of_none hreceive]
  · rw [hreceive] at hmailbox
    rw [process_of_some hreceive]
    have hopen := hs.mailbox.isClosed_eq_false (.inl (by simp [hbuffered]))
    refine ⟨hmailbox, hs.capacity, hs.gone, hs.kept, hs.exported_concat item,
      entered, waiting, refused, ?_, hsplit.accepted, ?_, hsplit.waits, hsplit.closed,
      hsplit.open_refused⟩
    · exact (List.map_id _).trans hsplit.calls
    · simp [hsplit.entries, hbuffered, hs.kept hopen]
  · rw [hreceive] at hmailbox
    rw [process_of_some hreceive]
    have hopen := hs.mailbox.isClosed_eq_false (.inl (by simp [hbuffered]))
    have hwaits := hsplit.waits
    have hdistinct := hs.mailbox.distinct
    rw [hwaiting] at hwaits hdistinct
    obtain ⟨c, cs, rfl, hc, hcs⟩ := List.map_eq_cons_iff.mp hwaits
    obtain ⟨hanswer, hitem⟩ := Prod.mk.inj hc
    have hothers := map_accept_waiting hcs (List.nodup_cons.mp hdistinct).1
    refine ⟨hmailbox, hs.capacity, hs.gone, hs.kept, hs.exported_concat item,
      entered ++ [c.accept (some call.ticket)], cs, [], ?_, ?_, ?_, hcs, by simp, fun _ => rfl⟩
    · simp [hsplit.calls, hsplit.open_refused hopen, map_accept_accepted hsplit.accepted, hothers]
    · simpa [or_imp, forall_and, Call.accept, hanswer] using hsplit.accepted
    · simp [hsplit.entries, hbuffered, hs.kept hopen, Call.accept, hanswer, hitem]

lemma map_refuse_of_ne {calls : List Call}
    (h : ∀ c ∈ calls, ∀ ticket, c.answer ≠ .waits ticket) : calls.map Call.refuse = calls := by
  refine (List.map_congr_left fun c hc => ?_).trans (List.map_id _)
  rw [Call.refuse]
  split
  · rename_i ticket hanswer
    exact absurd hanswer (h c hc ticket)
  · rfl

lemma answer_refuse_of_waits {c : Call} {ticket : Nat} (h : c.answer = .waits ticket) :
    c.refuse.answer = .closed := by
  rw [Call.refuse, h]

lemma Invariant.leave {s : Session} (hs : s.Invariant) : s.leave.Invariant := by
  obtain ⟨entered, waiting, refused, hsplit⟩ := hs.split
  have hentered : entered.map Call.refuse = entered :=
    map_refuse_of_ne fun c hc => by simp [hsplit.accepted c hc]
  have hrefused : refused.map Call.refuse = refused :=
    map_refuse_of_ne fun c hc => by simp [hsplit.closed c hc]
  have hwaiting : ∀ c ∈ waiting.map Call.refuse, c.answer = .closed := by
    intro c hc
    obtain ⟨c, hwaits, rfl⟩ := List.mem_map.mp hc
    obtain ⟨ticket, -, hticket⟩ := hsplit.waits.exists_ticket hwaits
    exact answer_refuse_of_waits hticket
  refine ⟨.close _, hs.capacity, by simp [Session.leave, abandon, Mailbox.close], nofun, hs.exported,
    entered, [], waiting.map Call.refuse ++ refused, ?_, hsplit.accepted, ?_, rfl, ?_, nofun⟩
  · simp [Session.leave, hsplit.calls, hentered, hrefused]
  · simp [Session.leave, hsplit.entries, abandon, Mailbox.close]
  · intro c hc
    exact (List.mem_append.mp hc).elim (hwaiting c) (hsplit.closed c)

/-- Changes to the manager that concern neither mailbox nor exporter. -/
lemma Invariant.of_manager {s : Session} (hs : s.Invariant) {m : Manager}
    (hmailbox : m.mailbox = s.manager.mailbox) (hexporter : m.exporter = s.manager.exporter)
    (hgone : m.phase = .gone ↔ s.manager.phase = .gone) : { s with manager := m }.Invariant := by
  obtain ⟨entered, waiting, refused, hsplit⟩ := hs.split
  obtain ⟨hcalls, haccepted, hentries, hwaits, hclosed, hopen⟩ := hsplit
  obtain ⟨hub, mailbox, exporter, phase, kernels⟩ := m
  obtain rfl : mailbox = _ := hmailbox
  obtain rfl : exporter = _ := hexporter
  exact ⟨hs.mailbox, hs.capacity, hs.gone.trans hgone.symm, hs.kept, hs.exported,
    entered, waiting, refused, hcalls, haccepted, hentries, hwaits, hclosed, hopen⟩

lemma Invariant.loop {s : Session} (hs : s.Invariant) : s.loop.Invariant := by
  rw [Session.loop]
  split
  case h_1 hlaunched =>
    rw [beginLoop, if_pos hlaunched]
    exact hs.of_manager rfl rfl (by simp [hlaunched])
  case h_2 =>
    split_ifs
    · exact hs.leave
    · exact hs.process
  case h_3 => exact hs

lemma Invariant.step {s : Session} (hs : s.Invariant) (op : Operation) : (s.step op).Invariant := by
  cases op with
  | notify handle n => exact hs.notify handle n
  | start =>
    rw [Session.step, launch]
    split_ifs with hfresh
    · exact hs.of_manager rfl rfl (by simp [hfresh])
    · exact hs
  | loop => exact hs.loop
  | cancel => exact hs.of_manager rfl rfl Iff.rfl
  | drop => exact hs.leave

lemma Invariant.run {s : Session} (hs : s.Invariant) (ops : List Operation) :
    (s.run ops).Invariant := by
  induction ops generalizing s with
  | nil => exact hs
  | cons op ops ih => exact ih (hs.step op)

/-! ### Places of calls -/

/-- The notifications that have entered the mailbox, in their order. -/
def entered (s : Session) : List Notification :=
  s.processed ++ s.lost ++ s.manager.mailbox.buffered

/-- What has become of a call later on. -/
structure Becomes (c c' : Call) : Prop where
  handle : c'.handle = c.handle
  notification : c'.notification = c.notification
  answer : (∀ ticket, c.answer ≠ .waits ticket) → c'.answer = c.answer

lemma Becomes.accept (c : Call) (ticket : Option Nat) : Becomes c (c.accept ticket) := by
  rw [Call.accept]
  split_ifs with h
  · refine ⟨rfl, rfl, fun hanswered => ?_⟩
    obtain ⟨t, -, ht⟩ := Option.map_eq_some_iff.mp h
    exact absurd ht.symm (hanswered t)
  · exact ⟨rfl, rfl, fun _ => rfl⟩

lemma Becomes.refuse (c : Call) : Becomes c c.refuse := by
  rw [Call.refuse]
  split
  case h_1 ticket h => exact ⟨rfl, rfl, fun hanswered => absurd h (hanswered ticket)⟩
  case h_2 => exact ⟨rfl, rfl, fun _ => rfl⟩

lemma Becomes.refl (c : Call) : Becomes c c :=
  ⟨rfl, rfl, fun _ => rfl⟩

lemma Becomes.trans {c c' c'' : Call} (h : Becomes c c') (h' : Becomes c' c'') : Becomes c c'' where
  handle := h'.handle.trans h.handle
  notification := h'.notification.trans h.notification
  answer hanswered := by
    have hsame := h.answer hanswered
    exact (h'.answer (hsame ▸ hanswered)).trans hsame

/-- What is never taken back in the course of a session. -/
structure Grows (s s' : Session) : Prop where
  processed : s.processed <+: s'.processed
  calls : ∀ (i : Nat) c, s.calls[i]? = some c → ∃ c', s'.calls[i]? = some c' ∧ Becomes c c'

lemma Grows.refl (s : Session) : Grows s s :=
  ⟨List.prefix_rfl, fun _ c hc => ⟨c, hc, .refl c⟩⟩

lemma Grows.trans {s s' s'' : Session} (h : Grows s s') (h' : Grows s' s'') : Grows s s'' where
  processed := h.processed.trans h'.processed
  calls i c hc := by
    obtain ⟨c', hc', hbecomes⟩ := h.calls i c hc
    obtain ⟨c'', hc'', hbecomes'⟩ := h'.calls i c' hc'
    exact ⟨c'', hc'', hbecomes.trans hbecomes'⟩

lemma Grows.of_map {s s' : Session} {f : Call → Call} (hf : ∀ c, Becomes c (f c))
    (hcalls : s'.calls = s.calls.map f) (hprocessed : s.processed <+: s'.processed) :
    Grows s s' where
  processed := hprocessed
  calls i c hc := ⟨f c, by rw [hcalls, List.getElem?_map, hc, Option.map_some], hf c⟩

lemma grows_leave (s : Session) : Grows s s.leave :=
  .of_map Becomes.refuse rfl List.prefix_rfl

lemma grows_process (s : Session) : Grows s s.process := by
  rcases hreceive : s.manager.mailbox.receive with ⟨_ | receipt, mailbox⟩
  · rw [process_of_none hreceive]
    exact .refl s
  · rw [process_of_some hreceive]
    exact .of_map (Becomes.accept · receipt.accepted) rfl (List.prefix_append ..)

lemma grows_step (s : Session) (op : Operation) : Grows s (s.step op) := by
  cases op with
  | notify handle n =>
    refine ⟨List.prefix_rfl, fun i c hc => ⟨c, ?_, .refl c⟩⟩
    exact (List.getElem?_append_left (List.getElem?_eq_some_iff.mp hc).1).trans hc
  | start | cancel => exact ⟨List.prefix_rfl, fun _ c hc => ⟨c, hc, .refl c⟩⟩
  | loop =>
    rw [step, loop]
    split
    case h_1 => exact ⟨List.prefix_rfl, fun _ c hc => ⟨c, hc, .refl c⟩⟩
    case h_2 =>
      split_ifs
      · exact grows_leave s
      · exact grows_process s
    case h_3 => exact .refl s
  | drop => exact grows_leave s

lemma grows_run (s : Session) (ops : List Operation) : Grows s (s.run ops) := by
  induction ops generalizing s with
  | nil => exact .refl s
  | cons op ops ih => exact (grows_step s op).trans (ih (s.step op))

variable {s : Session}

/-- The calls that have been accepted are the first ones, and they are those that have entered. -/
lemma Invariant.accepted_iff (hs : s.Invariant) {i : Nat} {c : Call} (hc : s.calls[i]? = some c) :
    c.answer = .accepted ↔ i < s.entered.length := by
  obtain ⟨entered, waiting, refused, hsplit⟩ := hs.split
  have hlength : entered.length = s.entered.length := by
    rw [Session.entered, ← hsplit.entries, List.length_map]
  rw [hsplit.calls, List.append_assoc] at hc
  rw [← hlength]
  constructor
  · intro hanswer
    by_contra hge
    rw [List.getElem?_append_right (Nat.not_lt.mp hge)] at hc
    rcases List.mem_append.mp (List.mem_of_getElem? hc) with hmem | hmem
    · obtain ⟨ticket, -, hwaits⟩ := hsplit.waits.exists_ticket hmem
      simp [hanswer] at hwaits
    · simpa [hanswer] using hsplit.closed c hmem
  · intro hlt
    rw [List.getElem?_append_left hlt] at hc
    exact hsplit.accepted c (List.mem_of_getElem? hc)

lemma Invariant.map_take (hs : s.Invariant) {n : Nat} (hn : n ≤ s.entered.length) :
    (s.calls.take n).map Call.notification = s.entered.take n := by
  obtain ⟨entered, waiting, refused, hsplit⟩ := hs.split
  have hentries : entered.map Call.notification = s.entered := hsplit.entries
  rw [← hentries, List.length_map] at hn
  rw [hsplit.calls, List.append_assoc, List.take_append_of_le_length hn, List.map_take, hentries]

/-- A call waits only while the mailbox is full. -/
lemma Invariant.of_waits (hs : s.Invariant) {c : Call} (hc : c ∈ s.calls) {ticket : Nat}
    (h : c.answer = .waits ticket) :
    s.manager.phase ≠ .gone ∧ s.manager.mailbox.buffered.length = mailboxCapacity := by
  obtain ⟨entered, waiting, refused, hsplit⟩ := hs.split
  rw [hsplit.calls, List.mem_append, List.mem_append] at hc
  rcases hc with (hc | hc) | hc
  · simp [hsplit.accepted c hc] at h
  · obtain ⟨other, hother, -⟩ := hsplit.waits.exists_ticket hc
    have hwaiting : s.manager.mailbox.waiting ≠ [] := by
      intro hnone
      simp [hnone] at hother
    have hopen := hs.mailbox.isClosed_eq_false (.inr hwaiting)
    exact ⟨fun hgone => by simp [hs.gone.mpr hgone] at hopen,
      (hs.mailbox.full hwaiting).trans hs.capacity⟩
  · simp [hsplit.closed c hc] at h

/-- A call is refused only after the manager went away. -/
lemma Invariant.of_closed (hs : s.Invariant) {c : Call} (hc : c ∈ s.calls)
    (h : c.answer = .closed) : s.manager.phase = .gone := by
  obtain ⟨entered, waiting, refused, hsplit⟩ := hs.split
  refine hs.gone.mp (Bool.of_not_eq_false fun hopen => ?_)
  rw [hsplit.calls, hsplit.open_refused hopen, List.append_nil, List.mem_append] at hc
  rcases hc with hc | hc
  · simp [hsplit.accepted c hc] at h
  · obtain ⟨ticket, -, hwaits⟩ := hsplit.waits.exists_ticket hc
    simp [hwaits] at h

/-- What has been refused is not processed later. -/
lemma Invariant.length_processed_le (hs : s.Invariant) {i : Nat} {c : Call}
    (hc : s.calls[i]? = some c) (h : c.answer = .closed) (more : List Operation) :
    (s.run more).processed.length ≤ i := by
  obtain ⟨c', hc', hbecomes⟩ := (grows_run s more).calls i c hc
  have hanswer : c'.answer ≠ .accepted := by simp [hbecomes.answer (by simp [h]), h]
  have hlater := mt ((hs.run more).accepted_iff hc').mpr hanswer
  rw [Session.entered, List.length_append, List.length_append] at hlater
  omega

lemma Invariant.processed_eq (hs : s.Invariant) :
    s.processed = (s.calls.take s.processed.length).map Call.notification := by
  rw [hs.map_take (by simp [Session.entered]), Session.entered, List.append_assoc, List.take_left]

/-! ### A manager at rest -/

/-- Where nothing is left in the mailbox, everything has been accepted and processed. -/
lemma Invariant.of_drained (hs : s.Invariant) (hopen : s.manager.mailbox.isClosed = false)
    (hbuffered : s.manager.mailbox.buffered = []) (hwaiting : s.manager.mailbox.waiting = []) :
    s.processed = s.calls.map Call.notification ∧ ∀ c ∈ s.calls, c.answer = .accepted := by
  obtain ⟨entered, waiting, refused, hsplit⟩ := hs.split
  have hwaits : waiting = [] := by simpa [Waits, hwaiting] using hsplit.waits
  have hcalls : s.calls = entered := by simp [hsplit.calls, hwaits, hsplit.open_refused hopen]
  have hentries := hsplit.entries
  rw [hs.kept hopen, hbuffered, List.append_nil, List.append_nil] at hentries
  exact ⟨hcalls ▸ hentries.symm, hcalls ▸ hsplit.accepted⟩

lemma Invariant.process_cases (hs : s.Invariant) (hopen : s.manager.mailbox.isClosed = false) :
    (s.process = s ∧ s.processed = s.calls.map Call.notification ∧
      ∀ c ∈ s.calls, c.answer = .accepted) ∨
    (s.processed.length < s.entered.length ∧
      s.process.processed = s.entered.take (s.processed.length + 1)) := by
  have hcapacity : 0 < s.manager.mailbox.capacity := by rw [hs.capacity]; decide
  have hlost := hs.kept hopen
  rcases hs.mailbox.receive_cases hcapacity with ⟨hbuffered, hwaiting, hreceive⟩ |
    ⟨item, items, hbuffered, -, hreceive⟩ | ⟨item, items, call, calls, hbuffered, -, hreceive⟩
  · exact .inl ⟨process_of_none hreceive, hs.of_drained hopen hbuffered hwaiting⟩
  all_goals
    right
    rw [process_of_some hreceive, Session.entered, hlost, hbuffered]
    simp [List.take_append]

lemma map_notification_process (s : Session) :
    s.process.calls.map Call.notification = s.calls.map Call.notification := by
  rcases hreceive : s.manager.mailbox.receive with ⟨_ | receipt, mailbox⟩
  · rw [process_of_none hreceive]
  · rw [process_of_some hreceive, List.map_map]
    exact List.map_congr_left fun c _ => (Becomes.accept c receipt.accepted).notification

lemma phase_process (s : Session) : s.process.manager.phase = s.manager.phase ∧
    s.process.manager.hub = s.manager.hub := by
  rcases hreceive : s.manager.mailbox.receive with ⟨_ | receipt, mailbox⟩
  · rw [process_of_none hreceive]
    exact ⟨rfl, rfl⟩
  · rw [process_of_some hreceive]
    exact ⟨rfl, rfl⟩

/-- Whether the loop takes notifications. -/
def IsServing (s : Session) : Prop :=
  s.manager.phase = .running ∧ s.manager.hub.isCancelled = false

lemma IsServing.step_loop (h : s.IsServing) : s.step .loop = s.process := by
  rw [step, loop, h.1, h.2]
  rfl

lemma IsServing.process (h : s.IsServing) : s.process.IsServing := by
  obtain ⟨hphase, hhub⟩ := phase_process s
  exact ⟨hphase.trans h.1, by rw [hhub, h.2]⟩

lemma IsServing.run_succ (h : s.IsServing) (n : Nat) :
    s.run (List.replicate (n + 1) .loop) = s.process.run (List.replicate n .loop) := by
  rw [List.replicate_succ, Session.run, List.foldl_cons, h.step_loop, Session.run]

/-- The loop exports as its manager does, one notification after the other. -/
lemma IsServing.run_eq_exportTimes (h : s.IsServing) (n : Nat) :
    (s.run (List.replicate n .loop)).manager = (s.manager.exportTimes n).2 ∧
      (s.run (List.replicate n .loop)).exported =
        s.exported ++ (s.manager.exportTimes n).1 := by
  induction n generalizing s with
  | zero => exact ⟨rfl, (List.append_nil _).symm⟩
  | succ n ih =>
    obtain ⟨hmanager, hexported⟩ := ih h.process
    rw [h.run_succ, hmanager, hexported, exportTimes]
    rcases hreceive : s.manager.mailbox.receive with ⟨_ | receipt, mailbox⟩
    · rw [process_of_none hreceive, exportOne_of_none hreceive]
      exact ⟨rfl, rfl⟩
    · rw [process_of_some hreceive, exportOne_of_some hreceive]
      exact ⟨rfl, List.append_assoc ..⟩

/-- Exporting everything is as many turns of the loop as there are notifications in the mailbox. -/
lemma Invariant.run_eq_exportAll (hs : s.Invariant) (h : s.IsServing) :
    let mailbox := s.manager.mailbox
    let s' := s.run (List.replicate (mailbox.buffered.length + mailbox.waiting.length) .loop)
    s'.manager = s.manager.exportAll.2 ∧
      s'.exported = s.exported ++ s.manager.exportAll.1.exported := by
  intro mailbox s'
  have hcapacity : 0 < s.manager.mailbox.capacity := by rw [hs.capacity]; decide
  rw [exportAll_eq_exportTimes h.1 hs.mailbox hcapacity]
  exact h.run_eq_exportTimes _

lemma Invariant.isClosed_eq_false (hs : s.Invariant) (h : s.manager.phase ≠ .gone) :
    s.manager.mailbox.isClosed = false :=
  Bool.eq_false_iff.mpr fun hclosed => h (hs.gone.mp hclosed)

lemma Invariant.isClosed_of_isServing (hs : s.Invariant) (h : s.IsServing) :
    s.manager.mailbox.isClosed = false :=
  hs.isClosed_eq_false (by rw [h.1]; decide)

/-- Every turn of a loop that has something to take takes the next notification. -/
lemma Invariant.processed_process (hs : s.Invariant) (h : s.IsServing) :
    s.process.processed = (s.calls.map Call.notification).take (s.processed.length + 1) := by
  rcases hs.process_cases (hs.isClosed_of_isServing h) with ⟨hsame, hall, -⟩ | ⟨hlt, htake⟩
  · rw [hsame, ← hall, List.take_of_length_le (Nat.le_succ _)]
  · rw [htake, ← hs.map_take hlt, List.map_take]

lemma Invariant.run_loops (hs : s.Invariant) (h : s.IsServing) (n : Nat) :
    let s' := s.run (List.replicate n .loop)
    s'.IsServing ∧ s'.calls.map Call.notification = s.calls.map Call.notification ∧
      s'.processed = (s.calls.map Call.notification).take (s.processed.length + n) := by
  induction n generalizing s with
  | zero =>
    exact ⟨h, rfl, hs.processed_eq.trans List.map_take⟩
  | succ n ih =>
    obtain ⟨hserving, hcalls, hprocessed⟩ := ih hs.process h.process
    rw [h.run_succ]
    refine ⟨hserving, hcalls.trans (map_notification_process s), ?_⟩
    rw [hprocessed, map_notification_process, hs.processed_process h, List.length_take,
      List.take_eq_take_iff]
    omega

/-- A loop that has taken as many turns as calls were made has nothing left to do. -/
lemma Invariant.step_loop_of_run (hs : s.Invariant) (h : s.IsServing) :
    let s' := s.run (List.replicate s.calls.length .loop)
    s'.step .loop = s' ∧ s'.calls.map Call.notification = s.calls.map Call.notification := by
  intro s'
  obtain ⟨hserving, hcalls, hprocessed⟩ := hs.run_loops h s.calls.length
  have hs' : s'.Invariant := hs.run _
  refine ⟨?_, hcalls⟩
  rw [hserving.step_loop]
  rcases hs'.process_cases (hs'.isClosed_of_isServing hserving) with ⟨hsame, -⟩ | ⟨hlt, htake⟩
  · exact hsame
  · -- all calls have been processed, so that no turn can process one more
    have hlength : s'.processed.length = s.calls.length := by
      rw [show s'.processed = _ from hprocessed, List.length_take, List.length_map]
      omega
    have hnext := congrArg List.length (htake.symm.trans (hs'.processed_process hserving))
    rw [show s'.calls.map Call.notification = _ from hcalls, List.length_take, List.length_take,
      List.length_map] at hnext
    omega

/-- Whether the manager has been started and neither cancelled nor dropped. -/
def IsStarted (s : Session) : Prop :=
  (s.manager.phase = .launched ∨ s.manager.phase = .running) ∧ s.manager.hub.isCancelled = false

lemma IsStarted.step_loop (h : s.IsStarted) : (s.step .loop).IsServing ∧
    (s.step .loop).calls.map Call.notification = s.calls.map Call.notification := by
  obtain ⟨hlaunched | hrunning, hcancelled⟩ := h
  · rw [step, loop, hlaunched, beginLoop, if_pos hlaunched]
    exact ⟨⟨rfl, s.manager.hub.isCancelled_start.trans hcancelled⟩, rfl⟩
  · have hserving : s.IsServing := ⟨hrunning, hcancelled⟩
    rw [hserving.step_loop]
    exact ⟨hserving.process, map_notification_process s⟩

/-- What does not cancel or drop a manager keeps it going. -/
lemma step_alive (hcancelled : s.manager.hub.isCancelled = false) (hgone : s.manager.phase ≠ .gone)
    {op : Operation} (hcancel : op ≠ .cancel) (hdrop : op ≠ .drop) :
    (s.step op).manager.hub.isCancelled = false ∧ (s.step op).manager.phase ≠ .gone ∧
      ((s.step op).manager.phase = .fresh ↔ s.manager.phase = .fresh ∧ op ≠ .start) := by
  cases op with
  | notify => exact ⟨hcancelled, hgone, by simp [step, Session.notify, Manager.notify]⟩
  | start =>
    rw [step, launch]
    split_ifs with hfresh
    · exact ⟨hcancelled, nofun, by simp⟩
    · exact ⟨hcancelled, hgone, by simp [hfresh]⟩
  | loop =>
    have hserving (h : s.manager.phase = .launched ∨ s.manager.phase = .running) :=
      (IsStarted.step_loop (s := s) ⟨h, hcancelled⟩).1
    rcases hphase : s.manager.phase with _ | _ | _ | _
    · have hsame : s.step .loop = s := by rw [step, loop, hphase]
      simp [hsame, hcancelled, hphase]
    · obtain ⟨hrunning, hcancelled'⟩ := hserving (.inl hphase)
      simp [hrunning, hcancelled']
    · obtain ⟨hrunning, hcancelled'⟩ := hserving (.inr hphase)
      simp [hrunning, hcancelled']
    · exact absurd hphase hgone
  | cancel => exact absurd rfl hcancel
  | drop => exact absurd rfl hdrop

lemma run_alive (hcancelled : s.manager.hub.isCancelled = false) (hgone : s.manager.phase ≠ .gone)
    {ops : List Operation} (hcancel : .cancel ∉ ops) (hdrop : .drop ∉ ops) :
    (s.run ops).manager.hub.isCancelled = false ∧ (s.run ops).manager.phase ≠ .gone ∧
      ((s.run ops).manager.phase = .fresh ↔ s.manager.phase = .fresh ∧ .start ∉ ops) := by
  induction ops generalizing s with
  | nil => exact ⟨hcancelled, hgone, by simp [Session.run]⟩
  | cons op ops ih =>
    rw [List.mem_cons, not_or] at hcancel hdrop
    obtain ⟨hcancelled', hgone', hfresh⟩ :=
      step_alive hcancelled hgone (Ne.symm hcancel.1) (Ne.symm hdrop.1)
    obtain ⟨hlater, hlater', hfresh'⟩ := ih hcancelled' hgone' hcancel.2 hdrop.2
    refine ⟨hlater, hlater', hfresh'.trans ?_⟩
    rw [hfresh, List.mem_cons, not_or, and_assoc, ne_comm]

lemma isStarted_run (root : Rootfs) {ops : List Operation} (hstart : .start ∈ ops)
    (hcancel : .cancel ∉ ops) (hdrop : .drop ∉ ops) : ((new root).run ops).IsStarted := by
  obtain ⟨hcancelled, hgone, hfresh⟩ :=
    run_alive (s := new root) rfl nofun hcancel hdrop
  refine ⟨?_, hcancelled⟩
  rcases hphase : ((new root).run ops).manager.phase with _ | _ | _ | _
  · exact absurd hstart (hfresh.mp hphase).2
  · exact .inl rfl
  · exact .inr rfl
  · exact absurd hphase hgone

/-- Where the loop has nothing left to do, everything has been accepted and processed. -/
lemma Invariant.of_rest (hs : s.Invariant) (h : s.IsStarted) (hrest : s.step .loop = s) :
    s.processed = s.calls.map Call.notification ∧ ∀ c ∈ s.calls, c.answer = .accepted := by
  have hserving : s.IsServing := hrest ▸ h.step_loop.1
  rcases hs.process_cases (hs.isClosed_of_isServing hserving) with ⟨-, hall⟩ | ⟨hlt, htake⟩
  · exact hall
  · rw [← hserving.step_loop, hrest] at htake
    have hlength := congrArg List.length htake
    rw [List.length_take] at hlength
    omega

/-- For all calls there may be, whenever the manager is started, cancelled or dropped and whatever its
loop has done so far:

* the loop has processed the conditions of the first calls, in order and each once, and it exports
  what an exporter makes of them; so the calls of each handle are processed in their order;
* a call has been accepted iff it is among the first ones, whose conditions have entered the mailbox
  in this order, and nothing that has entered is lost before the manager goes away;
* a call waits only while the mailbox is full, and it is refused only after the manager went away; a
  call that has been refused is never processed;
* where a manager has been started and neither cancelled nor dropped, and its loop has nothing left to
  do, every call has been accepted and processed; the loop comes to this by itself;
* a loop that takes all there is in the mailbox does what exporting everything does;
* what has been processed or answered stays so. -/
theorem run_inOrder (root : Rootfs) (ops : List Operation) :
    let s := (new root).run ops
    s.processed = (s.calls.take s.processed.length).map Call.notification ∧
    s.exported = (({} : Exporter).takeAll s.processed).1 ∧
    (∀ handle, (s.calls.take s.processed.length).filter (·.handle = handle) <+:
      s.calls.filter (·.handle = handle)) ∧
    s.entered = (s.calls.take s.entered.length).map Call.notification ∧
    (s.manager.phase ≠ .gone → s.lost = []) ∧
    (∀ (i : Nat) c, s.calls[i]? = some c →
      (c.answer = .accepted ↔ i < s.entered.length) ∧
      (∀ ticket, c.answer = .waits ticket →
        s.manager.phase ≠ .gone ∧ s.manager.mailbox.buffered.length = 100) ∧
      (c.answer = .closed →
        s.manager.phase = .gone ∧ ∀ more, (s.run more).processed.length ≤ i)) ∧
    (.start ∈ ops → .cancel ∉ ops → .drop ∉ ops →
      (s.step .loop = s →
        s.processed = s.calls.map Call.notification ∧ ∀ c ∈ s.calls, c.answer = .accepted) ∧
      let s' := s.run (List.replicate (s.calls.length + 1) .loop)
      s'.step .loop = s' ∧ s'.calls.map Call.notification = s.calls.map Call.notification) ∧
    (s.IsServing →
      let mailbox := s.manager.mailbox
      let s' := s.run (List.replicate (mailbox.buffered.length + mailbox.waiting.length) .loop)
      s'.manager = s.manager.exportAll.2 ∧
        s'.exported = s.exported ++ s.manager.exportAll.1.exported) ∧
    ∀ more, Grows s (s.run more) := by
  intro s
  have hs : s.Invariant := (Invariant.new root).run ops
  refine ⟨hs.processed_eq, (congrArg Prod.fst hs.exported).symm,
    fun handle => (List.take_prefix ..).filter _, ?_,
    fun hphase => hs.kept (hs.isClosed_eq_false hphase), fun i c hc => ⟨hs.accepted_iff hc, ?_, ?_⟩,
    fun hstart hcancel hdrop => ?_, hs.run_eq_exportAll, grows_run s⟩
  · rw [hs.map_take (Nat.le_refl _), List.take_length]
  · exact fun ticket => hs.of_waits (List.mem_of_getElem? hc)
  · exact fun hclosed =>
      ⟨hs.of_closed (List.mem_of_getElem? hc) hclosed, hs.length_processed_le hc hclosed⟩
  · have hstarted : s.IsStarted := isStarted_run root hstart hcancel hdrop
    obtain ⟨hserving, hcalls⟩ := hstarted.step_loop
    have hlength := congrArg List.length hcalls
    rw [List.length_map, List.length_map] at hlength
    obtain ⟨hrest, hcalls'⟩ := (hs.step .loop).step_loop_of_run hserving
    rw [hlength] at hrest hcalls'
    exact ⟨hs.of_rest hstarted, hrest, hcalls'.trans hcalls⟩

end Session

end NodeWatch.Manager
