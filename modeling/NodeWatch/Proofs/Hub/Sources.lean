import NodeWatch.Proofs.Hub.Session
import NodeWatch.Proofs.Observer
import NodeWatch.Proofs.Resource

/-!
# What the observers of files read

Every observer of a hub reads what its address stands for (`Sourced`), whatever is done to the hub.
So an observer of a file reads the path that is the text of the address, and streams of two files
come from one observer if and only if both paths are shown alike. The main statement is
`Session.run_readsFiles`.
-/

namespace NodeWatch.Hub

open Files Resource Text

/-- Every observer reads what its address stands for. -/
structure Sourced (root : Rootfs) (h : Hub) : Prop where
  root_eq : h.root = root
  source_eq : ∀ {id o}, h.observer? id = some o →
    LineSource.ofAddress root o.address = .ok o.source

section

variable {root : Rootfs} {h : Hub} (hs : h.Sourced root)

include hs

lemma Sourced.modify (id : ObserverId) {f : Observer → Observer}
    (hf : ∀ o, (f o).address = o.address ∧ (f o).source = o.source) :
    (h.modify id f).Sourced root where
  root_eq := hs.root_eq
  source_eq := by
    intro j o' ho'
    rw [observer?_modify] at ho'
    split_ifs at ho' with hj
    · obtain ⟨o, ho, rfl⟩ := Option.map_eq_some_iff.mp ho'
      rw [(hf o).1, (hf o).2]
      exact hs.source_eq ho
    · exact hs.source_eq ho'

lemma Sourced.mapObservers {f : Observer → Observer}
    (hf : ∀ o, (f o).address = o.address ∧ (f o).source = o.source) :
    Sourced root { h with observers := h.observers.map f } where
  root_eq := hs.root_eq
  source_eq := by
    intro id o' ho'
    rw [observer?_mapObservers] at ho'
    obtain ⟨o, ho, rfl⟩ := Option.map_eq_some_iff.mp ho'
    rw [(hf o).1, (hf o).2]
    exact hs.source_eq ho

lemma Sourced.findOrMake {a : Address} {id : ObserverId} {h' : Hub}
    (hf : h.findOrMake a = .ok (id, h')) : h'.Sourced root := by
  unfold Hub.findOrMake at hf
  split at hf
  · cases hf
    exact hs
  · split at hf
    · cases hf
    · next source hsource =>
      cases hf
      refine ⟨hs.root_eq, fun {j o} ho => ?_⟩
      change (h.make a source).observer? j = some o at ho
      rw [observer?_make] at ho
      split_ifs at ho
      · cases ho
        rw [← hs.root_eq]
        exact hsource
      · exact hs.source_eq ho

lemma Sourced.startObserver (id : ObserverId) : (h.startObserver id).Sourced root := by
  unfold Hub.startObserver
  split
  · exact hs
  · split_ifs
    · exact hs
    · obtain ⟨hroot, hsource⟩ := hs.modify id (f := fun o => { o with isStarted := true })
        fun o => ⟨rfl, rfl⟩
      exact ⟨hroot, hsource⟩

lemma Sourced.enter (id : ObserverId) : (h.enter id).2.Sourced root := by
  obtain ⟨hroot, hsource⟩ := hs.modify id (f := fun o =>
    { o with broadcaster := o.broadcaster.subscribe h.nextStream streamCapacity })
    fun o => ⟨rfl, rfl⟩
  exact ⟨hroot, hsource⟩

lemma Sourced.subscribe {a : Address} {stream : StreamId} {h' : Hub}
    (hsub : h.subscribe a = .ok (stream, h')) : h'.Sourced root := by
  rcases hmade : h.findOrMake a with e | ⟨id, h₀⟩
  · simp [Hub.subscribe, hmade, bind, Except.bind] at hsub
  · simp only [Hub.subscribe, hmade, bind, Except.bind, pure, Except.pure, Except.ok.injEq,
      Prod.mk.injEq] at hsub
    obtain ⟨-, rfl⟩ := hsub
    have hentered := (hs.findOrMake hmade).enter id
    rw [startIfRunning]
    split_ifs
    · exact hentered.startObserver id
    · exact hentered

lemma Sourced.subscribeAll (addresses : List Address) :
    (h.subscribeAll addresses).2.2.Sourced root := by
  induction addresses generalizing h with
  | nil => exact hs
  | cons a addresses ih =>
    rcases hsub : h.subscribe a with e | ⟨stream, h'⟩
    · simpa [Hub.subscribeAll, hsub] using hs
    · simpa [Hub.subscribeAll, hsub] using ih (hs.subscribe hsub)

lemma Sourced.releaseOne (a : Address) : (h.releaseOne a).Sourced root := by
  rcases h.releaseOne_cases a with ⟨heq, -⟩ | ⟨id, o, -, -, ⟨-, heq⟩ | ⟨-, heq⟩⟩ <;> rw [heq]
  · exact hs
  · exact hs.modify id fun _ => ⟨rfl, rfl⟩
  · obtain ⟨hroot, hsource⟩ := hs.modify id (f := Observer.pruned) fun _ => ⟨rfl, rfl⟩
    have hwithout : ((h.modify id Observer.pruned).without a).Sourced root := ⟨hroot, hsource⟩
    exact hwithout.modify id fun o => by split_ifs <;> exact ⟨rfl, rfl⟩

lemma Sourced.release (addresses : List Address) : (h.release addresses).Sourced root :=
  List.foldlRecOn _ _ hs fun _ hs a _ => hs.releaseOne a

lemma Sourced.start : h.start.Sourced root :=
  start_induction ⟨hs.root_eq, hs.source_eq⟩ fun _ id hs => hs.startObserver id

lemma Sourced.leave (streams : List StreamId) : (h.leave streams).Sourced root :=
  hs.mapObservers fun _ => ⟨rfl, rfl⟩

lemma Sourced.register (addresses : List Address) (refusal : Option SubscribeError) :
    (h.register addresses refusal).2.Sourced root := by
  have hsub := hs.subscribeAll addresses
  rcases herror : (h.subscribeAll addresses).2.1.or refusal with _ | e
  · rw [register_of_none herror]
    exact hsub
  · rw [register_of_some herror]
    exact (hsub.leave _).release _

end

namespace Session

lemma sourced_step {s : Session} {root : Rootfs} (hs : s.hub.Sourced root) (op : Operation) :
    (s.step op).hub.Sourced root := by
  cases op with
  | register addresses refusal =>
    have hregister := hs.register addresses refusal
    rw [step]
    split <;> simp_all
  | subscribe addresses => exact hs.subscribeAll addresses
  | release addresses => exact hs.release addresses
  | leave streams => exact hs.leave streams
  | start => exact hs.start
  | cancel => exact ⟨hs.root_eq, hs.source_eq⟩
  | look files =>
    rw [step, hub_look]
    refine hs.mapObservers fun o => ?_
    unfold Observer.look
    split_ifs
    · exact ⟨rfl, rfl⟩
    · cases o.standing <;> exact ⟨rfl, rfl⟩
    · exact ⟨rfl, rfl⟩
  | deliver =>
    rw [step, hub_deliver]
    exact hs.mapObservers fun o => by rw [Observer.deliver_eq]; exact ⟨rfl, rfl⟩
  | take stream => exact hs.mapObservers fun _ => ⟨rfl, rfl⟩
  | takeOne stream => exact hs.mapObservers fun _ => ⟨rfl, rfl⟩

lemma sourced_run (root : Rootfs) (ops : List Operation) :
    ((new root).run ops).hub.Sourced root :=
  List.foldlRecOn (motive := fun s : Session => s.hub.Sourced root) _ _
    ⟨rfl, by simp [new, Hub.new, observer?]⟩ fun _ hs op _ => sourced_step hs op

/-- Whether the observer `id` reads the file at `path` and `stream` is one of its streams. -/
def Feeds (h : Hub) (path : Path) (id : ObserverId) (stream : StreamId) : Prop :=
  ∃ o, h.observer? id = some o ∧ o.source = .file path ∧ stream ∈ o.broadcaster.listeners

/-- The observer of a file reads the path that its address shows. -/
lemma exists_feeds (root : Rootfs) (ops : List Operation) {p : Path} {stream : StreamId}
    (hheld : (.file p, stream) ∈ ((new root).run ops).held) :
    ∃ id, ((new root).run ops).hub.lookup? (.file p) = some id ∧
      Feeds ((new root).run ops).hub (.ofText p.display) id stream := by
  have hi := (Invariant.new root).run ops
  obtain ⟨id, o, hfound, ho, hlistens⟩ := hi.served _ hheld
  have hsource := (sourced_run root ops).source_eq ho
  rw [hi.hub.address_of_lookup? hfound ho] at hsource
  exact ⟨id, hfound, o, ho, (Except.ok.inj hsource).symm, hlistens⟩

lemma eq_iff_of_lookup? {h : Hub} (hi : h.Invariant) {p q : Path} {id id' : ObserverId}
    (hp : h.lookup? (.file p) = some id) (hq : h.lookup? (.file q) = some id') :
    id = id' ↔ p.display = q.display := by
  rw [← Address.file_eq_file_iff]
  constructor
  · rintro rfl
    obtain ⟨o, ho, haddress⟩ := hi.found hp
    exact haddress.symm.trans (hi.address_of_lookup? hq ho)
  · intro hsame
    rw [hsame, hq] at hp
    exact (Option.some.inj hp).symm

/-- The address of a file is the path as it is shown.

* Two paths that are text have one address only if they are the same path. Of the paths without a
  zero byte, an address identifies those that are shown without U+FFFD.
* The source of an address is the path that the address shows, which is the path itself if and only
  if that is text.
* Whatever is done to a hub, a stream of a file comes from an observer that reads that path, and
  streams of two files come from one observer if and only if both paths are shown alike.
* The cron log below a root is read if and only if the path of the root is text. -/
theorem run_readsFiles (root : Rootfs) (ops : List Operation) (p : Path) :
    (∀ q : Path, p.IsText → q.IsText → (Address.file p = Address.file q ↔ p = q)) ∧
    (0 ∉ p.bytes → ((∀ q : Path, 0 ∉ q.bytes → Address.file q = Address.file p → q = p) ↔
      '\uFFFD' ∉ p.display.toList)) ∧
    (∃ q, LineSource.ofAddress root (.file p) = .ok (.file q) ∧ q.display = p.display ∧
      (q = p ↔ p.IsText)) ∧
    (∀ q stream stream',
      let s := (new root).run ops
      (.file p, stream) ∈ s.held → (.file q, stream') ∈ s.held →
        ∃ id id', Feeds s.hub (.ofText p.display) id stream ∧
          Feeds s.hub (.ofText q.display) id' stream' ∧ (id = id' ↔ p.display = q.display)) ∧
    ∀ host, LineSource.ofAddress host (Monitor.Source.cronLog.address root) =
      .ok (.file (Monitor.cronLog root)) ↔ root.path.IsText := by
  refine ⟨fun q => Address.file_eq_file_iff_of_isText, Address.identifies_iff,
    ⟨.ofText p.display, rfl, Path.display_ofText _, Path.ofText_display_eq_iff⟩, ?_, fun host => ?_⟩
  · intro q stream stream' s hp hq
    obtain ⟨id, hid, hfeeds⟩ := exists_feeds root ops hp
    obtain ⟨id', hid', hfeeds'⟩ := exists_feeds root ops hq
    have hi := (Invariant.new root).run ops
    exact ⟨id, id', hfeeds, hfeeds', eq_iff_of_lookup? hi.hub hid hid'⟩
  · rw [← Monitor.isText_cronLog_iff, ← Path.ofText_display_eq_iff, Monitor.address_cronLog]
    exact ⟨fun h => LineSource.file.inj (Except.ok.inj h),
      fun h => congrArg (Except.ok ∘ LineSource.file) h⟩

theorem run_readsFiles_umlaut :
    let s := (new .host).run [.subscribe [.file (.ofText "/ä"), .file (.ofText "/b")]]
    (.file (.ofText "/ä"), 0) ∈ s.held ∧ (.file (.ofText "/b"), 1) ∈ s.held ∧
      ∃ id id', Feeds s.hub (.ofText "/ä") id 0 ∧ Feeds s.hub (.ofText "/b") id' 1 ∧ id ≠ id' := by
  intro s
  have hfirst : (.file (.ofText "/ä"), 0) ∈ s.held := by decide +kernel
  have hsecond : (.file (.ofText "/b"), 1) ∈ s.held := by decide +kernel
  obtain ⟨-, -, -, hstreams, -⟩ := run_readsFiles .host
    [.subscribe [.file (.ofText "/ä"), .file (.ofText "/b")]] (.ofText "/ä")
  obtain ⟨id, id', hfeeds, hfeeds', hsame⟩ := hstreams _ _ _ hfirst hsecond
  simp only [Path.display_ofText] at hfeeds hfeeds' hsame
  exact ⟨hfirst, hsecond, id, id', hfeeds, hfeeds', fun heq => absurd (hsame.mp heq) (by decide)⟩

/-- Whether addresses tell files apart, and lead back to them. -/
def AddressesIdentifyFiles : Prop :=
  ∀ p q : Path, 0 ∉ p.bytes → 0 ∉ q.bytes → (Address.file p = Address.file q ↔ p = q) ∧
    ∀ root, LineSource.ofAddress root (.file p) = .ok (.file p)

/-- A path that ends in a byte of no character. -/
def broken (b : UInt8) : Path :=
  ⟨encode "/a".toList ++ [b]⟩

/-- Two files share an observer, which reads neither of them. -/
theorem not_addressesIdentifyFiles_broken :
    broken 0xFE ≠ broken 0xFF ∧ Address.file (broken 0xFE) = Address.file (broken 0xFF) ∧
    LineSource.ofAddress .host (.file (broken 0xFE)) = .ok (.file (.ofText "/a\uFFFD")) ∧
    ((new .host).run [.subscribe [.file (broken 0xFE), .file (broken 0xFF)]]).hub.size = 1 ∧
    ¬ AddressesIdentifyFiles := by
  have hne : broken 0xFE ≠ broken 0xFF := by decide
  have hsame : Address.file (broken 0xFE) = Address.file (broken 0xFF) := by decide +kernel
  refine ⟨hne, hsame, by decide +kernel, by decide +kernel, fun hall => ?_⟩
  exact hne ((hall _ _ (by decide) (by decide)).1.mp hsame)

end Session

end NodeWatch.Hub
