import NodeWatch.Proofs.Monitor.Handlers

/-!
# Isolation of the handlers

A session is a registered kernel monitor with the lines that wait for its handlers and a history of
what they have handled. What a handler produces depends only on what concerns it; a failed item
stops nobody, and only an entry of the cron log that finds the sink closed leaves a trace
(`Kernel.Session.not_failuresLeaveNoTrace`). The main statement is `Kernel.Session.run_isolated`.
-/

namespace NodeWatch.Monitor.Kernel

open Files

inductive Operation where
  /-- A line arrives at a stream. -/
  | feed (source : Source) (line : String)
  /-- The handler of a stream takes the next line, if one waits. -/
  | serve (source : Source)
  /-- The handler of a periodic check gets a tick. -/
  | tick (i : Fin periodicChecks.length) (files : Tree)
  | closeSink
  | cancel

namespace Operation

/-- Whether a handler can see the operation. -/
def concerns (h : Handler) : Operation → Bool
  | feed source _ | serve source => h = .stream source
  | tick i _ => h = .periodic i
  | closeSink | cancel => true

/-- The line that arrives at a stream. -/
def arrival? (source : Source) : Operation → Option String
  | feed other line => if other = source then some line else none
  | _ => none

end Operation

structure Session where
  kernel : Kernel
  sinkOpen : Bool := true
  pending : Source → List String := fun _ => []
  /-- What has been handled, in order, with the reports. -/
  history : List (Item × Report) := []

namespace Session

def new (root : Rootfs) : Session :=
  { kernel := .fresh root }

/-- The session after lines of a stream have come or been taken. -/
def setPending (s : Session) (source : Source) (lines : List String) : Session :=
  { s with pending := Function.update s.pending source lines }

def handle (s : Session) (item : Item) : Session :=
  let (kernel, report) := s.kernel.handle item
  { s with kernel, history := s.history ++ [(item, report)] }

/-- A handler looks for a cancellation before it takes an item. -/
def step (s : Session) : Operation → Session
  | .feed source line => s.setPending source (s.pending source ++ [line])
  | .serve source =>
    if s.kernel.isCancelled then s
    else match s.pending source with
      | [] => s
      | line :: lines => (s.setPending source lines).handle (.line source ⟨s.sinkOpen, line⟩)
  | .tick i files =>
    if s.kernel.isCancelled then s else s.handle (.tick i ⟨s.sinkOpen, files⟩)
  | .closeSink => { s with sinkOpen := false }
  | .cancel => { s with kernel := s.kernel.cancel }

def run (s : Session) (ops : List Operation) : Session :=
  ops.foldl step s

/-- The items that have been handled. -/
def items (s : Session) : List Item :=
  s.history.map Prod.fst

/-- What a handler has handled and produced. -/
def productsOf (s : Session) (h : Handler) : List (Item × Report) :=
  s.history.filter fun p => p.1.handler = h

/-- A handler of a stream takes the line that waits longest, if it goes on and one waits. -/
lemma step_serve_cases (s : Session) (source : Source) :
    s.step (.serve source) = s ∨ ∃ line lines, s.kernel.isCancelled = false ∧
      s.pending source = line :: lines ∧ s.step (.serve source) =
        (s.setPending source lines).handle (.line source ⟨s.sinkOpen, line⟩) := by
  rw [step]
  split
  case isTrue => exact .inl rfl
  case isFalse hlive =>
    split
    case h_1 => exact .inl rfl
    case h_2 line lines hpending =>
      exact .inr ⟨line, lines, Bool.eq_false_iff.mpr hlive, hpending, rfl⟩

lemma step_tick_cases (s : Session) (i : Fin periodicChecks.length) (files : Tree) :
    s.step (.tick i files) = s ∨ s.kernel.isCancelled = false ∧
      s.step (.tick i files) = s.handle (.tick i ⟨s.sinkOpen, files⟩) := by
  rw [step]
  split_ifs with hlive
  · exact .inl rfl
  · exact .inr ⟨Bool.eq_false_iff.mpr hlive, rfl⟩

/-- What holds at any time; the sink, once closed, stays so. -/
structure Invariant (root : Rootfs) (s : Session) : Prop where
  history : (fresh root).replay s.items = s.history
  kernel : { s.kernel with isCancelled := false } = (fresh root).after s.items
  closed : s.history.Pairwise fun p q => p.1.sinkOpen = false → q.1.sinkOpen = false
  still_closed : ∀ p ∈ s.history, p.1.sinkOpen = false → s.sinkOpen = false

lemma handle_eq_of_live {s : Session} (hlive : s.kernel.isCancelled = false) (item : Item) :
    s.handle item = { s with
      kernel := s.kernel.remember item
      history := s.history ++ [(item, (s.kernel.outcome item).report item.handler.name)] } := by
  rw [handle, Kernel.handle_eq hlive]

lemma items_handle (s : Session) (item : Item) : (s.handle item).items = s.items ++ [item] := by
  simp [items, handle]

lemma Invariant.new (root : Rootfs) : Invariant root (new root) where
  history := rfl
  kernel := rfl
  closed := .nil
  still_closed := by simp [Session.new]

lemma Invariant.after_items {root : Rootfs} {s : Session} (hs : Invariant root s)
    (hlive : s.kernel.isCancelled = false) : (fresh root).after s.items = s.kernel := by
  rw [← hs.kernel, ← hlive]

lemma Invariant.handle {root : Rootfs} {s : Session} (hs : Invariant root s)
    (hlive : s.kernel.isCancelled = false) {item : Item} (hitem : item.sinkOpen = s.sinkOpen) :
    Invariant root (s.handle item) := by
  have hitems := items_handle s item
  have hkernel := hs.after_items hlive
  rw [handle_eq_of_live hlive] at hitems ⊢
  refine ⟨?_, ?_, ?_, ?_⟩
  · rw [hitems, replay_append rfl, hs.history, hkernel, replay_cons hlive]
    rfl
  · rw [hitems, after_concat, hkernel, ← hlive]
    exact congrArg (fun b => { s.kernel.remember item with isCancelled := b })
      (s.kernel.isCancelled_remember item).symm
  · refine List.pairwise_append.mpr ⟨hs.closed, List.pairwise_singleton .., ?_⟩
    intro p hp q hq hclosed
    rw [List.mem_singleton.mp hq]
    exact hitem.trans (hs.still_closed p hp hclosed)
  · intro p hp hclosed
    rcases List.mem_append.mp hp with hp | hp
    · exact hs.still_closed p hp hclosed
    · rw [List.mem_singleton.mp hp] at hclosed
      exact hitem.symm.trans hclosed

lemma Invariant.step {root : Rootfs} {s : Session} (hs : Invariant root s) (op : Operation) :
    Invariant root (s.step op) := by
  cases op with
  | feed source line => exact ⟨hs.history, hs.kernel, hs.closed, hs.still_closed⟩
  | serve source =>
    rcases s.step_serve_cases source with hsame | ⟨line, lines, hlive, -, hstep⟩
    · rwa [hsame]
    · rw [hstep]
      have hs' : Invariant root (s.setPending source lines) :=
        ⟨hs.history, hs.kernel, hs.closed, hs.still_closed⟩
      exact hs'.handle hlive rfl
  | tick i files =>
    rcases s.step_tick_cases i files with hsame | ⟨hlive, hstep⟩
    · rwa [hsame]
    · rw [hstep]
      exact hs.handle hlive rfl
  | closeSink => exact ⟨hs.history, hs.kernel, hs.closed, fun _ _ _ => rfl⟩
  | cancel => exact ⟨hs.history, hs.kernel, hs.closed, hs.still_closed⟩

lemma Invariant.run {root : Rootfs} {s : Session} (hs : Invariant root s) (ops : List Operation) :
    Invariant root (s.run ops) := by
  induction ops generalizing s with
  | nil => exact hs
  | cons op ops ih => exact ih (hs.step op)

/-! ### What concerns a handler -/

/-- Two sessions that look the same to a handler. -/
structure SameFor (h : Handler) (s s' : Session) : Prop where
  root : s.kernel.root = s'.kernel.root
  isCancelled : s.kernel.isCancelled = s'.kernel.isCancelled
  sinkOpen : s.sinkOpen = s'.sinkOpen
  pending : ∀ source, h = .stream source → s.pending source = s'.pending source
  detector : h = .stream .cronLog → s.kernel.detector = s'.kernel.detector
  products : s.productsOf h = s'.productsOf h

lemma SameFor.refl (h : Handler) (s : Session) : SameFor h s s :=
  ⟨rfl, rfl, rfl, fun _ _ => rfl, fun _ => rfl, rfl⟩

lemma SameFor.trans {h : Handler} {s s' s'' : Session} (hs : SameFor h s s')
    (hs' : SameFor h s' s'') : SameFor h s s'' where
  root := hs.root.trans hs'.root
  isCancelled := hs.isCancelled.trans hs'.isCancelled
  sinkOpen := hs.sinkOpen.trans hs'.sinkOpen
  pending source hh := (hs.pending source hh).trans (hs'.pending source hh)
  detector hh := (hs.detector hh).trans (hs'.detector hh)
  products := hs.products.trans hs'.products

lemma productsOf_handle {s : Session} (hlive : s.kernel.isCancelled = false) (h : Handler)
    (item : Item) : (s.handle item).productsOf h = s.productsOf h ++
      if item.handler = h then [(item, (s.kernel.outcome item).report item.handler.name)]
      else [] := by
  rw [handle_eq_of_live hlive, productsOf, List.filter_append, List.filter_singleton]
  by_cases hitem : item.handler = h <;> simp [hitem, productsOf]

/-- A handler does not see what another one does. -/
lemma sameFor_handle_of_ne {h : Handler} {s : Session} (hlive : s.kernel.isCancelled = false)
    {item : Item} (hitem : item.handler ≠ h) : SameFor h (s.handle item) s := by
  have hproducts := productsOf_handle hlive h item
  rw [if_neg hitem, List.append_nil] at hproducts
  refine ⟨?_, ?_, ?_, ?_, fun hcron => ?_, hproducts⟩ <;> rw [handle_eq_of_live hlive]
  · exact s.kernel.root_remember item
  · exact s.kernel.isCancelled_remember item
  · exact fun _ _ => rfl
  · rw [s.kernel.remember_of_recorded?_eq_none (Item.recorded?_eq_none (hcron ▸ hitem))]

/-- A handler does the same with an item in sessions that look the same to it. -/
lemma SameFor.handle {h : Handler} {s s' : Session} (hs : SameFor h s s')
    (hlive : s.kernel.isCancelled = false) {item : Item} (hitem : item.handler = h) :
    SameFor h (s.handle item) (s'.handle item) := by
  have hlive' := hs.isCancelled ▸ hlive
  have houtcome : s.kernel.outcome item = s'.kernel.outcome item :=
    outcome_congr hs.root fun hcron => hs.detector (hitem ▸ hcron)
  refine ⟨?_, ?_, ?_, ?_, fun hcron => ?_, ?_⟩
  · simpa [handle_eq_of_live hlive, handle_eq_of_live hlive'] using hs.root
  · simpa [handle_eq_of_live hlive, handle_eq_of_live hlive'] using hs.isCancelled
  · simpa [handle_eq_of_live hlive, handle_eq_of_live hlive'] using hs.sinkOpen
  · simpa [handle_eq_of_live hlive, handle_eq_of_live hlive'] using hs.pending
  · rw [handle_eq_of_live hlive, handle_eq_of_live hlive']
    exact detector_remember_congr (hs.detector hcron) item
  · rw [productsOf_handle hlive, productsOf_handle hlive', hs.products, houtcome]

lemma sameFor_setPending {h : Handler} (s : Session) {source : Source} (hne : h ≠ .stream source)
    (lines : List String) : SameFor h (s.setPending source lines) s where
  root := rfl
  isCancelled := rfl
  sinkOpen := rfl
  pending other hother :=
    Function.update_of_ne (fun hsame => hne (by rw [hother, hsame])) _ _
  detector _ := rfl
  products := rfl

lemma SameFor.setPending {h : Handler} {s s' : Session} (hs : SameFor h s s') (source : Source)
    (lines : List String) : SameFor h (s.setPending source lines) (s'.setPending source lines) where
  root := hs.root
  isCancelled := hs.isCancelled
  sinkOpen := hs.sinkOpen
  pending other hother := by
    by_cases hsame : other = source
    · simp [Session.setPending, hsame]
    · simp [Session.setPending, hsame, hs.pending other hother]
  detector := hs.detector
  products := hs.products

lemma sameFor_step {h : Handler} (s : Session) {op : Operation} (hop : op.concerns h = false) :
    SameFor h (s.step op) s := by
  cases op with
  | feed source line =>
    exact sameFor_setPending s (by simpa [Operation.concerns] using hop) _
  | serve source =>
    have hne : h ≠ .stream source := by simpa [Operation.concerns] using hop
    rcases s.step_serve_cases source with hsame | ⟨line, lines, hlive, -, hstep⟩
    · rw [hsame]
      exact .refl h s
    · rw [hstep]
      have hlive' : (s.setPending source lines).kernel.isCancelled = false := hlive
      have hitem : (Item.line source ⟨s.sinkOpen, line⟩).handler ≠ h := hne.symm
      exact (sameFor_handle_of_ne hlive' hitem).trans (sameFor_setPending s hne lines)
  | tick i files =>
    have hne : h ≠ .periodic i := by simpa [Operation.concerns] using hop
    rcases s.step_tick_cases i files with hsame | ⟨hlive, hstep⟩
    · rw [hsame]
      exact .refl h s
    · rw [hstep]
      exact sameFor_handle_of_ne hlive hne.symm
  | closeSink => cases hop
  | cancel => cases hop

lemma SameFor.step {h : Handler} {s s' : Session} (hs : SameFor h s s') {op : Operation}
    (hop : op.concerns h = true) : SameFor h (s.step op) (s'.step op) := by
  cases op with
  | feed source line =>
    have hh : h = .stream source := by simpa [Operation.concerns] using hop
    rw [Session.step, Session.step, hs.pending source hh]
    exact hs.setPending source _
  | serve source =>
    have hh : h = .stream source := by simpa [Operation.concerns] using hop
    rw [Session.step, Session.step, ← hs.isCancelled, ← hs.pending source hh, ← hs.sinkOpen]
    split
    case isTrue => exact hs
    case isFalse hlive =>
      split
      case h_1 => exact hs
      case h_2 line lines _ =>
        exact (hs.setPending source lines).handle (Bool.eq_false_iff.mpr hlive) hh.symm
  | tick i files =>
    have hh : h = .periodic i := by simpa [Operation.concerns] using hop
    rw [Session.step, Session.step, ← hs.isCancelled, ← hs.sinkOpen]
    split_ifs with hlive
    · exact hs
    · exact hs.handle (Bool.eq_false_iff.mpr hlive) hh.symm
  | closeSink => exact ⟨hs.root, hs.isCancelled, rfl, hs.pending, hs.detector, hs.products⟩
  | cancel => exact ⟨hs.root, rfl, hs.sinkOpen, hs.pending, hs.detector, hs.products⟩

/-- Operations that do not concern a handler can be left out. -/
lemma SameFor.run {h : Handler} {s s' : Session} (hs : SameFor h s s') (ops : List Operation) :
    SameFor h (s.run ops) (s'.run (ops.filter (Operation.concerns h))) := by
  induction ops generalizing s s' with
  | nil => exact hs
  | cons op ops ih =>
    rcases hop : op.concerns h
    · rw [List.filter_cons_of_neg (by simp [hop])]
      exact ih ((sameFor_step s hop).trans hs)
    · rw [List.filter_cons_of_pos hop]
      exact ih (hs.step hop)

lemma seen_append (source : Source) (items more : List Item) :
    seen source (items ++ more) = seen source items ++ seen source more :=
  List.filterMap_append

/-- The lines of a stream that have been handled, and those that wait. -/
def linesOf (s : Session) (source : Source) : List String :=
  (seen source s.items).map Sighting.line ++ s.pending source

/-- The oldest line that waits becomes the youngest that has been handled. -/
lemma linesOf_handle {s : Session} {source : Source} {line : String} {lines : List String}
    (hpending : s.pending source = line :: lines) (sinkOpen : Bool) (other : Source) :
    ((s.setPending source lines).handle (.line source ⟨sinkOpen, line⟩)).linesOf other =
      s.linesOf other := by
  rw [linesOf, linesOf, items_handle, seen_append, seen_cons]
  by_cases hsame : source = other
  · subst hsame
    simp [setPending, handle, items, Item.sighting?, hpending, seen]
  · simp [setPending, handle, items, Item.sighting?, hsame, Function.update_of_ne (Ne.symm hsame),
      seen]

/-- Lines that arrive wait behind the others, and the oldest one is handled first. -/
lemma linesOf_step (s : Session) (source : Source) (op : Operation) :
    (s.step op).linesOf source = s.linesOf source ++ (op.arrival? source).toList := by
  cases op with
  | feed other line =>
    by_cases hsame : other = source
    · subst hsame
      simp [step, setPending, linesOf, items, Operation.arrival?]
    · simp [step, setPending, linesOf, items, Operation.arrival?, hsame,
        Function.update_of_ne (Ne.symm hsame)]
  | serve other =>
    refine Eq.trans ?_ (List.append_nil _).symm
    rcases s.step_serve_cases other with hsame | ⟨line, lines, -, hpending, hstep⟩
    · rw [hsame]
    · rw [hstep, linesOf_handle hpending s.sinkOpen source]
  | tick i files =>
    refine Eq.trans ?_ (List.append_nil _).symm
    rcases s.step_tick_cases i files with hsame | ⟨-, hstep⟩
    · rw [hsame]
    · rw [hstep, linesOf, items_handle, seen_append, seen_cons]
      simp [handle, linesOf, Item.sighting?, seen]
  | closeSink | cancel => exact (List.append_nil _).symm

lemma linesOf_run (s : Session) (source : Source) (ops : List Operation) :
    (s.run ops).linesOf source = s.linesOf source ++ ops.filterMap (Operation.arrival? source) := by
  induction ops generalizing s with
  | nil => exact (List.append_nil _).symm
  | cons op ops ih =>
    have hrun : s.run (op :: ops) = (s.step op).run ops := rfl
    rw [hrun, ih, linesOf_step, List.append_assoc, List.filterMap_cons]
    rcases op.arrival? source with _ | line <;> rfl

/-! ### Cancellation -/

lemma isCancelled_handle (s : Session) (item : Item) :
    (s.handle item).kernel.isCancelled = s.kernel.isCancelled := by
  rcases h : s.kernel.isCancelled
  · rw [handle_eq_of_live h, isCancelled_remember, h]
  · rcases item with ⟨source, sighting⟩ | ⟨i, m⟩ <;> simp [handle, Kernel.handle, takeLine, h]

/-- Nothing but a cancellation cancels. -/
lemma isCancelled_step (s : Session) (op : Operation) :
    (s.step op).kernel.isCancelled = true ↔ s.kernel.isCancelled = true ∨ op = .cancel := by
  cases op with
  | feed | closeSink => simp [step, setPending]
  | serve source =>
    rcases s.step_serve_cases source with hsame | ⟨line, lines, -, -, hstep⟩
    · simp [hsame]
    · simp [hstep, isCancelled_handle, setPending]
  | tick i files =>
    rcases s.step_tick_cases i files with hsame | ⟨-, hstep⟩
    · simp [hsame]
    · simp [hstep, isCancelled_handle]
  | cancel => simp [step, Kernel.cancel]

lemma isCancelled_run (s : Session) (ops : List Operation) :
    (s.run ops).kernel.isCancelled = true ↔ s.kernel.isCancelled = true ∨ .cancel ∈ ops := by
  induction ops generalizing s with
  | nil => simp [run]
  | cons op ops ih =>
    have hrun : s.run (op :: ops) = (s.step op).run ops := rfl
    rw [hrun, ih, isCancelled_step, List.mem_cons, or_assoc, eq_comm (a := op)]

/-- After a cancellation nothing more is handled. -/
lemma history_run_of_cancelled {s : Session} (h : s.kernel.isCancelled = true)
    (more : List Operation) : (s.run more).history = s.history := by
  induction more generalizing s with
  | nil => rfl
  | cons op more ih =>
    have hstep : (s.step op).history = s.history := by
      cases op with
      | feed | closeSink | cancel => rfl
      | serve | tick => rw [step, if_pos h]
    exact (ih ((isCancelled_step s op).mpr (.inl h))).trans hstep

/-- A handler goes on with the next line, whatever came of the others. -/
lemma items_step_serve {s : Session} (hlive : s.kernel.isCancelled = false) {source : Source}
    {line : String} {lines : List String} (hpending : s.pending source = line :: lines) :
    (s.step (.serve source)).items = s.items ++ [.line source ⟨s.sinkOpen, line⟩] := by
  have hstep : s.step (.serve source) =
      (s.setPending source lines).handle (.line source ⟨s.sinkOpen, line⟩) := by
    rw [step, hlive, hpending]
    rfl
  rw [hstep, items_handle]
  rfl

lemma items_step_tick {s : Session} (hlive : s.kernel.isCancelled = false)
    (i : Fin periodicChecks.length) (files : Tree) :
    (s.step (.tick i files)).items = s.items ++ [.tick i ⟨s.sinkOpen, files⟩] := by
  rw [step, hlive]
  exact items_handle ..

end Session

/-! ### Traces of an item -/

/-- Whether a history is what a monitor has that handles these items and no others. -/
def IsReplay (root : Rootfs) (history : List (Item × Report)) : Prop :=
  (fresh root).replay (history.map Prod.fst) = history

/-- No item records an entry of the command. -/
def NoEntry (command : String) (history : List (Item × Report)) : Prop :=
  ∀ p ∈ history, ∀ e, p.1.recorded? = some e → e.command ≠ command

/-- What an entry of the cron log leaves behind if its handling fails. -/
structure EntryTrace (root : Rootfs) (earlier : List (Item × Report)) (item : Item)
    (e : Cron.Entry) (later : List (Item × Report)) : Prop where
  closed : item.sinkOpen = false
  /-- It leaves behind what it would have with the sink open, where it does not fail. -/
  opened : ∃ r, r.failures = [] ∧ IsReplay root (earlier ++ (item.opened, r) :: later)
  /-- Without another entry of the command it leaves nothing behind. -/
  noEntry : NoEntry e.command later → IsReplay root (earlier ++ later)
  /-- Only the next entry of the command can come to something else without it, and to the same
  conditions. -/
  next {before rest : List (Item × Report)} {next : Item} {r : Report} {e' : Cron.Entry} :
    later = before ++ (next, r) :: rest → NoEntry e.command before → next.recorded? = some e' →
      e'.command = e.command →
        ∃ r', r'.conditions = r.conditions ∧ IsReplay root (earlier ++ before ++ (next, r') :: rest)

section

variable {k : Kernel} (hk : k.isCancelled = false) {earlier later : List (Item × Report)}
  {item : Item} {r : Report}
  (hhistory : k.replay ((earlier ++ (item, r) :: later).map Prod.fst) =
    earlier ++ (item, r) :: later)
include hk hhistory

/-- Without an item, what comes before it stays the same. -/
lemma replay_without : k.replay ((earlier ++ later).map Prod.fst) =
    earlier ++ (k.after (earlier.map Prod.fst)).replay (later.map Prod.fst) := by
  rw [List.map_append, replay_append hk, ((replay_eq_iff hk).mp hhistory).1]

/-- An item that records no entry can be left out. -/
lemma replay_without_of_recorded?_eq_none (h : item.recorded? = none) :
    k.replay ((earlier ++ later).map Prod.fst) = earlier ++ later := by
  obtain ⟨-, -, hlater⟩ := (replay_eq_iff hk).mp hhistory
  rw [after_concat, remember_of_recorded?_eq_none _ h] at hlater
  rw [replay_without hk hhistory, hlater]

/-- An entry can be left out if no later item records an entry of its command. -/
lemma replay_without_of_noEntry {e : Cron.Entry} (he : item.recorded? = some e)
    (h : NoEntry e.command later) :
    k.replay ((earlier ++ later).map Prod.fst) = earlier ++ later := by
  obtain ⟨-, -, hlater⟩ := (replay_eq_iff hk).mp hhistory
  rw [after_concat] at hlater
  have hagree := agree_remember (k := k.after (earlier.map Prod.fst)) (by simp [hk]) he
  rw [replay_without hk hhistory, ← hagree.replay_eq, hlater]
  intro item' hmem e' he'
  obtain ⟨p, hp, rfl⟩ := List.mem_map.mp hmem
  simpa using h p hp e' he'

/-- Without an entry, the next one of its command alone can come to something else, and to no
conditions either if the sink is closed. -/
lemma replay_without_of_next {e e' : Cron.Entry} (he : item.recorded? = some e)
    {before rest : List (Item × Report)} {next : Item} {r' : Report}
    (hsplit : later = before ++ (next, r') :: rest) (hbefore : NoEntry e.command before)
    (hnext : next.recorded? = some e') (hcommand : e'.command = e.command)
    (hclosed : next.sinkOpen = false) :
    ∃ r'', r''.conditions = r'.conditions ∧ k.replay ((earlier ++ later).map Prod.fst) =
      earlier ++ before ++ (next, r'') :: rest := by
  subst hsplit
  rw [replay_without hk hhistory]
  obtain ⟨-, -, hlater⟩ := (replay_eq_iff hk).mp hhistory
  rw [after_concat] at hlater
  generalize hK : k.after (earlier.map Prod.fst) = K at hlater ⊢
  have hlive : K.isCancelled = false := by simp [← hK, hk]
  obtain ⟨hbefore', rfl, hrest⟩ := (replay_eq_iff (by simp [hlive])).mp hlater
  have hagree : Agree (some e'.command) (K.remember item) K := hcommand ▸ agree_remember hlive he
  have hagree' := hagree.after (before.map Prod.fst)
  rw [after_concat] at hrest
  have hhead : K.replay (before.map Prod.fst) = before := by
    rw [← hagree.replay_eq, hbefore']
    intro item' hmem e'' he''
    obtain ⟨p, hp, rfl⟩ := List.mem_map.mp hmem
    simpa [hcommand] using hbefore p hp e'' he''
  have htail : (K.after (before.map Prod.fst ++ [next])).replay (rest.map Prod.fst) = rest := by
    rw [after_concat, ← (hagree'.remember_entry hnext).replay_eq, hrest]
    exact fun _ _ _ _ => nofun
  refine ⟨((K.after (before.map Prod.fst)).outcome next).report next.handler.name, ?_, ?_⟩
  · exact (conditions_of_entry _ hnext hclosed).trans (conditions_of_entry _ hnext hclosed).symm
  · have hnew := (replay_eq_iff (r := ((K.after (before.map Prod.fst)).outcome next).report
      next.handler.name) hlive).mpr ⟨hhead, rfl, htail⟩
    rw [List.append_assoc, ← hnew]
    simp

/-- An entry that finds the sink closed leaves behind what it would have with the sink open, where
it does not fail. -/
lemma replay_opened {e : Cron.Entry} (he : item.recorded? = some e) :
    ∃ r', r'.failures = [] ∧
      k.replay ((earlier ++ (item.opened, r') :: later).map Prod.fst) =
        earlier ++ (item.opened, r') :: later := by
  obtain ⟨hearlier, -, hlater⟩ := (replay_eq_iff hk).mp hhistory
  rw [after_concat, ← remember_opened _ he, ← after_concat] at hlater
  refine ⟨_, ?_, (replay_eq_iff hk).mpr ⟨hearlier, rfl, hlater⟩⟩
  rw [failures_report, error_of_entry _ ((item.recorded?_opened).trans he) item.opened_sinkOpen]
  rfl

end

namespace Session

section

variable {root : Rootfs} {s : Session} (hs : Invariant root s)
  {earlier later : List (Item × Report)} {item : Item} {r : Report}
  (hsplit : s.history = earlier ++ (item, r) :: later)
include hs hsplit

lemma Invariant.isReplay : IsReplay root (earlier ++ (item, r) :: later) := by
  rw [← hsplit]
  exact hs.history

/-- Each item is reported as its handler has it, with one record of this if it failed. -/
lemma Invariant.report_eq : r.conditions =
      (((fresh root).after (earlier.map Prod.fst)).outcome item).conditions ∧
    r.failures = ((((fresh root).after (earlier.map Prod.fst)).outcome item).error.map fun e =>
      Worker.failure item.handler.name e.message).toList := by
  obtain ⟨-, rfl, -⟩ := (replay_eq_iff rfl).mp (hs.isReplay hsplit)
  exact ⟨rfl, failures_report ..⟩

lemma Invariant.sinkOpen_later (hclosed : item.sinkOpen = false) {p : Item × Report}
    (hp : p ∈ later) : p.1.sinkOpen = false := by
  have hpairwise := hs.closed
  rw [hsplit, List.pairwise_append, List.pairwise_cons] at hpairwise
  exact hpairwise.2.1.1 p hp hclosed

lemma Invariant.entryTrace {e : Cron.Entry} (he : item.recorded? = some e)
    (hfailures : r.failures ≠ []) : EntryTrace root earlier item e later := by
  have hreplay := hs.isReplay hsplit
  have hclosed : item.sinkOpen = false := by
    rw [(hs.report_eq hsplit).2] at hfailures
    by_contra hopen
    rw [error_of_entry _ he (by simpa using hopen)] at hfailures
    exact hfailures rfl
  refine ⟨hclosed, replay_opened rfl hreplay he, replay_without_of_noEntry rfl hreplay he,
    fun {before rest next r' e'} hlater hbefore hnext hcommand => ?_⟩
  have hmem : (next, r') ∈ later := by simp [hlater]
  have hclosed' := hs.sinkOpen_later hsplit hclosed hmem
  subst hlater
  obtain ⟨r'', hconditions, hwithout⟩ :=
    replay_without_of_next rfl hreplay he rfl hbefore hnext hcommand hclosed'
  refine ⟨r'', hconditions, ?_⟩
  rw [IsReplay, ← hwithout]
  simp

end

/-- Whatever lines and ticks come in whatever order, wherever the sink is closed and the monitor
cancelled:

* what a handler has handled and produced depends only on the operations that concern it, so that
  others can come in another order or not at all;
* the lines of each stream are handled in the order in which they arrive;
* the conditions of the first two streams are those of their lines one by one, and the conditions of
  the cron log are those of a detector that sees its lines alone, as long as the sink is open;
* each item has been reported as its handler has it, with exactly one record under the name of the
  handler if the handling failed;
* the later items come to the same without an item whose handling failed, unless it records an entry
  of the cron log; then it leaves behind what it would have with the sink open;
* until a cancellation each handler goes on with its next item; afterwards nothing is handled. -/
theorem run_isolated (root : Rootfs) (ops : List Operation) :
    let s := (new root).run ops
    (∀ h ops', ops.filter (Operation.concerns h) = ops'.filter (Operation.concerns h) →
      s.productsOf h = ((new root).run ops').productsOf h) ∧
    (∀ source, (seen source s.items).map Sighting.line ++ s.pending source =
      ops.filterMap (Operation.arrival? source)) ∧
    conditionsOf (.stream .kernelLog) s.history = ((seen .kernelLog s.items).flatMap fun line =>
      if line.sinkOpen then (KernelLog.classify? line.line.toList).toList else []) ∧
    conditionsOf (.stream .kubelet) s.history = ((seen .kubelet s.items).flatMap fun line =>
      if line.sinkOpen then (Journal.classify? line.line.toList).toList else []) ∧
    conditionsOf (.stream .cronLog) s.history = (((seen .cronLog s.items).zip
      (tooFast .new ((seen .cronLog s.items).map Sighting.line))).flatMap fun (line, isTooFast) =>
        if isTooFast && line.sinkOpen then [Cron.tooFastCondition] else []) ∧
    (∀ earlier item r later, s.history = earlier ++ (item, r) :: later →
      let outcome := ((fresh root).after (earlier.map Prod.fst)).outcome item
      r.conditions = outcome.conditions ∧
      r.failures =
        (outcome.error.map fun e => Worker.failure item.handler.name e.message).toList ∧
      (r.failures ≠ [] → match item.recorded? with
        | none => IsReplay root (earlier ++ later)
        | some e => EntryTrace root earlier item e later)) ∧
    (.cancel ∉ ops →
      (∀ source line lines, s.pending source = line :: lines →
        (s.step (.serve source)).items = s.items ++ [.line source ⟨s.sinkOpen, line⟩]) ∧
      ∀ i files, (s.step (.tick i files)).items = s.items ++ [.tick i ⟨s.sinkOpen, files⟩]) ∧
    (.cancel ∈ ops → ∀ more, (s.run more).history = s.history) := by
  intro s
  have hs : Invariant root s := (Invariant.new root).run ops
  have hcancelled := isCancelled_run (new root) ops
  refine ⟨fun h ops' hops => ?_, fun source => linesOf_run (new root) source ops, ?_, ?_, ?_,
    fun earlier item r later hsplit => ?_, fun hcancel => ?_, fun hcancel => ?_⟩
  · rw [((SameFor.refl h _).run ops).products, hops, ((SameFor.refl h _).run ops').products]
  · exact hs.history ▸ conditionsOf_classified rfl (fun _ _ => rfl) s.items
  · exact hs.history ▸ conditionsOf_classified rfl (fun _ _ => rfl) s.items
  · exact hs.history ▸ conditionsOf_cronLog rfl s.items
  · obtain ⟨hconditions, hfailures⟩ := hs.report_eq hsplit
    refine ⟨hconditions, hfailures, fun hfailed => ?_⟩
    rcases he : item.recorded? with _ | e
    · exact replay_without_of_recorded?_eq_none rfl (hs.isReplay hsplit) he
    · exact hs.entryTrace hsplit he hfailed
  · have hlive : s.kernel.isCancelled = false :=
      Bool.eq_false_iff.mpr fun h => (hcancelled.mp h).elim nofun hcancel
    exact ⟨fun source line lines => items_step_serve hlive, items_step_tick hlive⟩
  · exact history_run_of_cancelled (hcancelled.mpr (.inr hcancel))

/-- With the sink closed, a job starts every three minutes. -/
def rapidJob : List Operation :=
  [.closeSink,
    .feed .cronLog "Sep 17 10:00:00 host CROND[1]: (root) CMD (/usr/bin/job)", .serve .cronLog,
    .feed .cronLog "Sep 17 10:03:00 host CROND[1]: (root) CMD (/usr/bin/job)", .serve .cronLog,
    .feed .cronLog "Sep 17 10:06:00 host CROND[1]: (root) CMD (/usr/bin/job)", .serve .cronLog]

lemma rapidJob_leavesTrace : ∀ history ∈ [((new .host).run rapidJob).history],
    (∃ p ∈ history[1]?, p.2.failures ≠ []) ∧
      ((fresh .host).replay ((history.take 1 ++ history.drop 2).map Prod.fst)).map
        (fun p => p.2.failures) ≠ (history.take 1 ++ history.drop 2).map fun p => p.2.failures := by
  decide +kernel

/-- Not every failed item leaves no trace: the entry of 10:03 fails, and without it the entry of
10:06 would not. -/
theorem not_failuresLeaveNoTrace : ¬ ∀ root ops earlier item r later,
    ((new root).run ops).history = earlier ++ (item, r) :: later → r.failures ≠ [] →
      IsReplay root (earlier ++ later) := by
  intro h
  have htrace := rapidJob_leavesTrace
  generalize hhistory : ((new .host).run rapidJob).history = history at htrace
  obtain ⟨⟨⟨item, r⟩, hitem, hfailures⟩, hdiffers⟩ := htrace history (List.mem_singleton_self _)
  obtain ⟨hlength, hitem⟩ := List.getElem?_eq_some_iff.mp hitem
  have hsplit : history = history.take 1 ++ (item, r) :: history.drop 2 := by
    rw [← hitem, List.getElem_cons_drop, List.take_append_drop]
  have hreplay := h .host rapidJob _ item r _ (hhistory.trans hsplit) hfailures
  exact hdiffers (congrArg (List.map _) hreplay)

end Session

end NodeWatch.Monitor.Kernel
