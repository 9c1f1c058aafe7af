import Blocklist.Proofs.ContentRule.Agreement
import Blocklist.SnapshotStore

/-! # Sessions with a snapshot store

Users of a store publish detectors, keep snapshots and have requests classified. A publication
takes effect as a whole, under a generation above all that users have seen, or it is aborted and
leaves the store as it is. Main statement: `ascends`. -/

namespace Blocklist

/-- What is published: a dataset, if it can be decoded, with suffix rules and trusted sites. -/
structure Publication where
  dataset : Except Json.Error Dataset
  suffixes : SuffixList
  trustedSites : List String

section

variable [Pattern.SizeLimit]

namespace SnapshotStore

theorem nextGeneration?_eq_some_iff {x : Snapshot} {g : UInt64} :
    x.nextGeneration? = some g ↔ g.toNat = x.generation.toNat + 1 := by
  rw [Snapshot.nextGeneration?]
  split
  case isTrue h =>
    rw [Option.some.injEq, ← UInt64.toNat_inj, UInt64.toNat_ofNatLT]
    exact eq_comm
  case isFalse h =>
    refine iff_of_false nofun fun hg => h ?_
    exact hg ▸ g.toNat_lt_size

theorem publish_eq_some_iff {s t : SnapshotStore} {det : Detector} {g : UInt64} :
    s.publish det = some (t, g) ↔
      g.toNat = s.current.generation.toNat + 1 ∧ t = ⟨⟨g, det⟩⟩ := by
  rw [publish, Option.map_eq_some_iff]
  constructor
  · rintro ⟨g, hg, ⟨⟩⟩
    exact ⟨nextGeneration?_eq_some_iff.mp hg, rfl⟩
  · rintro ⟨hg, rfl⟩
    exact ⟨g, nextGeneration?_eq_some_iff.mpr hg, rfl⟩

theorem exists_publish_eq_some_iff {s : SnapshotStore} {det : Detector} :
    (∃ t g, s.publish det = some (t, g)) ↔ s.current.generation.toNat + 1 < 2 ^ 64 := by
  simp only [publish_eq_some_iff]
  constructor
  · rintro ⟨t, g, hg, -⟩
    exact hg ▸ g.toNat_lt
  · intro h
    exact ⟨_, .ofNatLT _ h, UInt64.toNat_ofNatLT, rfl⟩

/-! ## Sessions -/

/-- What a user of a store does. -/
inductive Step where
  | publish (p : Publication)
  /-- The snapshot in use is kept. -/
  | hold
  /-- A request is classified by a snapshot that was kept, or else by the one in use. -/
  | classify (held : Option Nat) (r : Request)

/-- What a user is answered. -/
inductive Answer where
  | published (generation : UInt64)
  /-- A dataset that cannot be decoded does not reach the store. -/
  | refused (e : Json.Error)
  /-- No generation is left. -/
  | aborted
  | held (generation : UInt64)
  | classified (generation : UInt64) (c : Option Classification)

/-- The generation that a user learns from an answer. -/
def Answer.generation? : Answer → Option UInt64
  | published g => some g
  | refused _ => none
  | aborted => none
  | held g => some g
  | classified g _ => some g

/-- A store, and the snapshots that its users keep. -/
structure Session where
  store : SnapshotStore
  held : List Snapshot

namespace Session

def start (x : Snapshot) : Session := ⟨⟨x⟩, []⟩

/-- The snapshot in use, and those that users keep. -/
def snapshots (s : Session) : List Snapshot := s.store.current :: s.held

/-- The snapshot with an index among those that are kept, or else the one in use. -/
def snapshot (s : Session) (held : Option Nat) : Snapshot :=
  (held.bind fun i => s.held[i]?).getD s.store.current

def step (s : Session) : Step → Session × Answer
  | .publish p =>
    match p.dataset with
    | .ok d =>
      match s.store.publish (.configured d p.suffixes p.trustedSites) with
      | some (store, generation) => ({ s with store }, .published generation)
      | none => (s, .aborted)
    | .error e => (s, .refused e)
  | .hold => ({ s with held := s.held ++ [s.store.current] }, .held s.store.current.generation)
  | .classify held r =>
    (s, .classified (s.snapshot held).generation ((s.snapshot held).detector.classify r))

def run (s : Session) : List Step → Session
  | [] => s
  | x :: xs => (s.step x).1.run xs

def answers (s : Session) : List Step → List Answer
  | [] => []
  | x :: xs => (s.step x).2 :: (s.step x).1.answers xs

theorem run_append (s : Session) (xs ys : List Step) : s.run (xs ++ ys) = (s.run xs).run ys := by
  induction xs generalizing s with
  | nil => rfl
  | cons x xs ih => exact ih (s.step x).1

/-- The generations that users have seen after some steps: the first one, and those that they were
answered. -/
def seen (s : Session) (steps : List Step) : List UInt64 :=
  s.store.current.generation :: (s.answers steps).filterMap Answer.generation?

/-! ## Steps -/

/-- A session after a publication: all of it is in use, under the generation that was answered, and
what users keep is as it was. -/
structure IsPublished (s : Session) (p : Publication) (d : Dataset) (generation : UInt64)
    (t : Session) : Prop where
  generation : t.store.current.generation = generation
  dataset : t.store.current.detector.dataset = d
  filters : t.store.current.detector.filters = d.trackers.map fun _ t => ruleFilters t
  suffixes : t.store.current.detector.suffixes = p.suffixes
  trustedSites : ∀ site, site ∈ t.store.current.detector.trustedSites ↔
    ∃ raw ∈ p.trustedSites, Host.normalize? raw = some site
  held : t.held = s.held

/-- A step that publishes nothing: the store is as it was, and users keep and are told of snapshots
that there were. -/
structure IsUnpublished (s t : Session) (a : Answer) : Prop where
  answer : ∀ g, a ≠ .published g
  store : t.store = s.store
  held : ∀ x ∈ t.held, x ∈ s.snapshots
  generation : ∀ g, a.generation? = some g → ∃ x ∈ s.snapshots, x.generation = g

variable {s : Session}

theorem isPublished_of_publish {p : Publication} {d : Dataset} {t : SnapshotStore} {g : UInt64}
    (h : s.store.publish (.configured d p.suffixes p.trustedSites) = some (t, g)) :
    s.IsPublished p d g { s with store := t } := by
  obtain ⟨-, rfl⟩ := publish_eq_some_iff.mp h
  have hdataset := Detector.dataset_configured d p.suffixes p.trustedSites
  refine ⟨rfl, hdataset, ?_, ?_, fun site => ?_, rfl⟩
  · exact (Detector.filters_eq _).trans (by rw [hdataset])
  · rw [Detector.configured, Detector.trustAll_eq]
    rfl
  · rw [Detector.trustedSites_configured, TextSet.mem_ofList, List.mem_filterMap]

theorem snapshot_mem_snapshots (s : Session) (i : Option Nat) : s.snapshot i ∈ s.snapshots := by
  rw [snapshot]
  cases hi : i.bind fun i => s.held[i]? with
  | none => exact List.mem_cons_self
  | some x =>
    obtain ⟨j, -, hj⟩ := Option.bind_eq_some_iff.mp hi
    exact List.mem_cons_of_mem _ (List.mem_of_getElem? hj)

/-- A step publishes a decoded dataset as the next generation, or it publishes nothing. -/
theorem step_cases (s : Session) (x : Step) :
    (∃ p d t g, x = .publish p ∧ p.dataset = .ok d ∧
      s.store.publish (.configured d p.suffixes p.trustedSites) = some (t, g) ∧
      s.step x = ({ s with store := t }, .published g)) ∨
    s.IsUnpublished (s.step x).1 (s.step x).2 := by
  cases x with
  | publish p =>
    cases hd : p.dataset with
    | ok d =>
      cases hpublish : s.store.publish (.configured d p.suffixes p.trustedSites) with
      | some tg =>
        obtain ⟨t, g⟩ := tg
        exact .inl ⟨p, d, t, g, rfl, hd, hpublish, by simp only [step, hd, hpublish]⟩
      | none =>
        have hstep : s.step (.publish p) = (s, .aborted) := by simp only [step, hd, hpublish]
        rw [hstep]
        exact .inr ⟨nofun, rfl, fun _ => List.mem_cons_of_mem _, nofun⟩
    | error e =>
      have hstep : s.step (.publish p) = (s, .refused e) := by simp only [step, hd]
      rw [hstep]
      exact .inr ⟨nofun, rfl, fun _ => List.mem_cons_of_mem _, nofun⟩
  | hold =>
    refine .inr ⟨nofun, rfl, fun x hx => ?_, fun g hg => ?_⟩
    · rcases List.mem_append.mp hx with hx | hx
      · exact List.mem_cons_of_mem _ hx
      · exact List.mem_singleton.mp hx ▸ List.mem_cons_self
    · exact ⟨_, List.mem_cons_self, Option.some.inj hg⟩
  | classify held r =>
    refine .inr ⟨nofun, rfl, fun _ => List.mem_cons_of_mem _, fun g hg => ?_⟩
    exact ⟨_, s.snapshot_mem_snapshots held, Option.some.inj hg⟩

/-- A decoded dataset is published unless the greatest generation is in use. -/
theorem exists_published_iff {p : Publication} {d : Dataset} (hd : p.dataset = .ok d) :
    (∃ g, (s.step (.publish p)).2 = .published g) ↔
      s.store.current.generation.toNat + 1 < 2 ^ 64 := by
  rw [← @exists_publish_eq_some_iff _ s.store (.configured d p.suffixes p.trustedSites)]
  cases hpublish : s.store.publish (.configured d p.suffixes p.trustedSites) with
  | some tg => simp [step, hd, hpublish, Prod.ext_iff]
  | none => simp [step, hd, hpublish]

/-! ## Generations -/

/-- No snapshot that is kept is newer than the one in use. -/
def IsCurrent (s : Session) : Prop :=
  ∀ x ∈ s.snapshots, x.generation ≤ s.store.current.generation

theorem isCurrent_start (x : Snapshot) : (start x).IsCurrent := by
  intro y hy
  rw [List.mem_singleton.mp hy]
  exact UInt64.le_refl _

theorem generation_le_step (s : Session) (x : Step) :
    s.store.current.generation ≤ (s.step x).1.store.current.generation := by
  rcases s.step_cases x with ⟨p, d, t, g, -, -, hpublish, hstep⟩ | h
  · obtain ⟨hg, rfl⟩ := publish_eq_some_iff.mp hpublish
    rw [hstep, UInt64.le_iff_toNat_le, hg]
    exact Nat.le_succ _
  · rw [h.store]
    exact UInt64.le_refl _

theorem IsCurrent.step (h : s.IsCurrent) (x : Step) : (s.step x).1.IsCurrent := by
  intro y hy
  rcases List.mem_cons.mp hy with rfl | hy
  · exact UInt64.le_refl _
  · refine UInt64.le_trans (h y ?_) (s.generation_le_step x)
    rcases s.step_cases x with ⟨p, d, t, g, -, -, -, hstep⟩ | hstep
    · rw [hstep] at hy
      exact List.mem_cons_of_mem _ hy
    · exact hstep.held y hy

theorem IsCurrent.answer (h : s.IsCurrent) {x : Step} {g : UInt64}
    (hg : (s.step x).2.generation? = some g) : g ≤ (s.step x).1.store.current.generation := by
  rcases s.step_cases x with ⟨p, d, t, g', -, -, hpublish, hstep⟩ | hstep
  · obtain ⟨-, rfl⟩ := publish_eq_some_iff.mp hpublish
    rw [hstep] at hg ⊢
    exact UInt64.le_of_eq (Option.some.inj hg).symm
  · obtain ⟨y, hy, rfl⟩ := hstep.generation g hg
    exact UInt64.le_trans (h y hy) (s.generation_le_step x)

theorem generation_le_run (s : Session) (steps : List Step) :
    s.store.current.generation ≤ (s.run steps).store.current.generation := by
  induction steps generalizing s with
  | nil => exact UInt64.le_refl _
  | cons x xs ih => exact UInt64.le_trans (s.generation_le_step x) (ih _)

theorem IsCurrent.answers (h : s.IsCurrent) (steps : List Step) :
    ∀ a ∈ s.answers steps, ∀ g, a.generation? = some g →
      g ≤ (s.run steps).store.current.generation := by
  induction steps generalizing s with
  | nil => exact fun a ha => absurd ha List.not_mem_nil
  | cons x xs ih =>
    intro a ha g hg
    rcases List.mem_cons.mp ha with rfl | ha
    · exact UInt64.le_trans (h.answer hg) (generation_le_run _ xs)
    · exact ih (h.step x) a ha g hg

/-- The snapshot in use is of the greatest generation that users have seen. -/
theorem IsCurrent.seen (h : s.IsCurrent) (steps : List Step) :
    ∀ g ∈ s.seen steps, g ≤ (s.run steps).store.current.generation := by
  intro g hg
  rcases List.mem_cons.mp hg with rfl | hg
  · exact s.generation_le_run steps
  · obtain ⟨a, ha, hg⟩ := List.mem_filterMap.mp hg
    exact h.answers steps a ha g hg

/-! ## Sessions from the start -/

/-- The session from a snapshot on, after some steps. -/
def after (first : Snapshot) (steps : List Step) : Session := (start first).run steps

theorem after_append (first : Snapshot) (before : List Step) (x : Step) :
    after first (before ++ [x]) = ((after first before).step x).1 := by
  rw [after, run_append]
  rfl

/-- What holds of a step in a session, whatever was done before. -/
structure Ascends (first : Snapshot) (before : List Step) (x : Step) : Prop where
  /-- A dataset is published if it can be decoded and the greatest generation is not in use. -/
  publishes : ∀ p, x = .publish p →
    ((∃ g, ((after first before).step x).2 = .published g) ↔
      p.dataset.isOk ∧ (after first before).store.current.generation.toNat + 1 < 2 ^ 64)
  /-- It is published under a generation above all that were seen before, which is in use then with
  all that was published. -/
  published : ∀ g, ((after first before).step x).2 = .published g →
    (∀ g' ∈ (start first).seen before, g' < g) ∧
      ∃ p d, x = .publish p ∧ p.dataset = .ok d ∧
        (after first before).IsPublished p d g (after first (before ++ [x]))
  /-- All other steps leave the store as it is, those among them that publish in vain. -/
  unpublished : (∀ g, ((after first before).step x).2 ≠ .published g) →
    (after first (before ++ [x])).store = (after first before).store
  /-- The generation in use never goes back. -/
  never_back : ∀ steps, (after first before).store.current.generation ≤
    (after first (before ++ steps)).store.current.generation

/-- Published generations ascend in every session. -/
theorem ascends (first : Snapshot) (before : List Step) (x : Step) : Ascends first before x where
  publishes := by
    rintro p rfl
    cases hd : p.dataset with
    | ok d => simp [exists_published_iff hd, Except.isOk, Except.toBool]
    | error e => simp [step, hd, Except.isOk, Except.toBool]
  published := by
    intro g hg
    rcases (after first before).step_cases x with ⟨p, d, t, g', hx, hd, hpublish, hstep⟩ | hstep
    case inr => exact absurd hg (hstep.answer g)
    rw [hstep] at hg
    cases hg
    refine ⟨fun g' hg' => ?_, p, d, hx, hd, ?_⟩
    · have hseen := (isCurrent_start first).seen before g' hg'
      have hnext := (publish_eq_some_iff.mp hpublish).1
      rw [UInt64.le_iff_toNat_le] at hseen
      rw [UInt64.lt_iff_toNat_lt, hnext]
      exact Nat.lt_succ_of_le hseen
    · rw [after_append, hstep]
      exact isPublished_of_publish hpublish
  unpublished := by
    intro hnone
    rw [after_append]
    rcases (after first before).step_cases x with ⟨p, d, t, g, -, -, -, hstep⟩ | hstep
    · exact absurd (congrArg Prod.snd hstep) (hnone g)
    · exact hstep.store
  never_back := by
    intro steps
    rw [after, after, run_append]
    exact generation_le_run _ steps

end Session

end SnapshotStore

end

end Blocklist
