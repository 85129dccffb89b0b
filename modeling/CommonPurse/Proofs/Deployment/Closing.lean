import CommonPurse.Deployment
import Mathlib.Data.List.Forall2
import Mathlib.Tactic.Lemma

/-!
# What a run opens, it closes

A run opens the resources that the settings ask for, lets its parts race, and closes the resources
in the opposite order. The parts have ended by the time of the first closing. But closing stops at
the first resource that fails to close, and a run that cannot open everything closes nothing of
what it has opened.

## Main definitions

* `CommonPurse.Deployment.Happening.opening?`, `closing?` — the resource that a happening opens, or
  that it closes or fails to close.
* `CommonPurse.Deployment.Run.Orderly` — everything opened is closed once, after all parts have
  ended, and the run ends as the race does.

## Main results

* `CommonPurse.Deployment.opened_of_build` — what is opened when everything can be.
* `CommonPurse.Deployment.count_closings_iff` — when closing comes to every resource.
* `CommonPurse.Deployment.orderly_iff` — when a run is orderly.
-/

namespace CommonPurse.Deployment

variable {ε : Type}

/-! ## Openings and closings -/

/-- The resource that is opened. -/
def Happening.opening? : Happening ε → Option Resource
  | .opened r => some r
  | .logged _ | .began _ | .ended _ _ | .closed _ | .stuck _ => none

/-- The resource that is closed, or that fails to close. -/
def Happening.closing? : Happening ε → Option Resource
  | .closed r | .stuck r => some r
  | .logged _ | .opened _ | .began _ | .ended _ _ => none

/-- The resources that are opened, in order. -/
def openings (hs : List (Happening ε)) : List Resource := hs.filterMap Happening.opening?

/-- The resources that are closed or fail to, in order. -/
def closings (hs : List (Happening ε)) : List Resource := hs.filterMap Happening.closing?

@[simp] lemma openings_append (hs ks : List (Happening ε)) :
    openings (hs ++ ks) = openings hs ++ openings ks := List.filterMap_append

@[simp] lemma closings_append (hs ks : List (Happening ε)) :
    closings (hs ++ ks) = closings hs ++ closings ks := List.filterMap_append

lemma mem_openings {r : Resource} {hs : List (Happening ε)} :
    r ∈ openings hs ↔ Happening.opened r ∈ hs := by
  refine List.mem_filterMap.trans ⟨?_, fun h => ⟨_, h, rfl⟩⟩
  rintro ⟨h, mem, found⟩
  cases h with
  | opened x =>
    obtain rfl : x = r := Option.some.inj found
    exact mem
  | logged _ | began _ | ended _ _ | closed _ | stuck _ => cases found

/-! ## Opening -/

lemma closings_openStore (reaches : String → Bool) (s : Settings.Store) :
    closings (openStore reaches s (ε := ε)).1 = [] := by
  unfold openStore
  repeat' split
  all_goals rfl

lemma closings_openBus (s : Settings.EventBus) : closings (openBus s (ε := ε)).1 = [] := by
  unfold openBus
  split <;> rfl

lemma closings_openNotifications (s : Settings.Notifications) :
    closings (openNotifications s (ε := ε)).1 = [] := by
  unfold openNotifications
  repeat' split
  all_goals rfl

lemma openings_openStore (reaches : String → Bool) (s : Settings.Store)
    {first : List (Happening ε)} (h : openStore reaches s = (first, .ok ())) :
    openings first = [.store] := by
  unfold openStore at h
  repeat' split at h
  all_goals cases h
  all_goals rfl

lemma openings_openBus (s : Settings.EventBus) {second : List (Happening ε)} {bus : Bus}
    (h : openBus s = (second, .ok bus)) : openings second = [.transport] := by
  unfold openBus at h
  split at h
  all_goals cases h
  rfl

lemma openings_openNotifications (s : Settings.Notifications) {third : List (Happening ε)}
    {n : Option Notification.Transport} (h : openNotifications s = (third, .ok n)) :
    openings third = if isClosable n then [.notifications] else [] := by
  unfold openNotifications at h
  split at h
  all_goals cases h
  rw [openings_append]
  cases isClosable n <;> rfl

/-- Nothing is closed while the resources are opened, whether or not that succeeds. -/
lemma closings_build (reaches : String → Bool) (s : Settings) :
    closings (build reaches s (ε := ε)).1 = [] := by
  have storing := closings_openStore (ε := ε) reaches s.store
  have announcing := closings_openBus (ε := ε) s.eventBus
  have telling := closings_openNotifications (ε := ε) s.notifications
  rw [build]
  generalize openStore (ε := ε) reaches s.store = store at storing ⊢
  obtain ⟨first, f | u⟩ := store
  · exact storing
  generalize openBus (ε := ε) s.eventBus = bus at announcing ⊢
  obtain ⟨second, f | bus⟩ := bus
  · simp_all
  generalize openNotifications (ε := ε) s.notifications = told at telling ⊢
  obtain ⟨third, f | n⟩ := told
  · simp_all
  · simp_all

/-- **When everything can be opened**, that is what is to be closed, in the opposite order. -/
theorem opened_of_build {reaches : String → Bool} {s : Settings} {opening : List (Happening ε)}
    {d : Deployment} (h : build reaches s = (opening, .ok d)) :
    openings opening = d.resources.reverse := by
  rw [build] at h
  rcases storing : openStore (ε := ε) reaches s.store with ⟨first, f | u⟩
  · simp [storing] at h
  rcases announcing : openBus (ε := ε) s.eventBus with ⟨second, f | bus⟩
  · simp [storing, announcing] at h
  rcases telling : openNotifications (ε := ε) s.notifications with ⟨third, f | n⟩
  · simp [storing, announcing, telling] at h
  rw [storing, announcing, telling] at h
  obtain ⟨rfl, same⟩ := Prod.mk.inj h
  obtain rfl := Except.ok.inj same
  rw [openings_append, openings_append, openings_openStore reaches s.store storing,
    openings_openBus s.eventBus announcing, openings_openNotifications s.notifications telling,
    resources]
  cases isClosable n <;> rfl

/-! ## Closing -/

/-- Only the resources in question are closed. -/
lemma closings_close_subset (fails : Resource → Option ε) (rs : List Resource) :
    closings (close fails rs).1 ⊆ rs := by
  induction rs with
  | nil => exact List.nil_subset _
  | cons r rest ih =>
    rw [close]
    cases fails r with
    | some e => exact List.cons_subset_cons r (List.nil_subset rest)
    | none => exact List.cons_subset_cons r ih

/-- **Closing comes to every resource** exactly when none but the last of them fails to close. -/
theorem count_closings_iff (fails : Resource → Option ε) {rs : List Resource} (once : rs.Nodup) :
    (∀ x ∈ rs, (closings (close fails rs).1).count x = 1) ↔
      ∀ x ∈ rs.dropLast, fails x = none := by
  induction rs with
  | nil => simp
  | cons r rest ih =>
    obtain ⟨new, once⟩ := List.nodup_cons.mp once
    rcases rest with _ | ⟨next, rest⟩
    case nil => cases failing : fails r <;> simp [close, failing, closings, Happening.closing?]
    rw [List.dropLast_cons_cons]
    cases failing : fails r with
    | some e =>
      have missed : (closings (close fails (r :: next :: rest)).1).count next = 0 := by
        rw [close, failing]
        have other : next ≠ r := fun same => new (same ▸ List.mem_cons_self)
        simp [closings, Happening.closing?, other.symm]
      refine iff_of_false (fun all => ?_) fun all => ?_
      · exact absurd (missed.symm.trans (all next (by simp))) (by decide)
      · exact absurd (failing.symm.trans (all r List.mem_cons_self)) (by simp)
    | none =>
      have closed : closings (close fails (r :: next :: rest)).1 =
          r :: closings (close fails (next :: rest)).1 := by
        rw [close, failing]
        rfl
      have first : (closings (close fails (next :: rest)).1).count r = 0 :=
        List.count_eq_zero.mpr fun mem => new (closings_close_subset fails _ mem)
      have others : ∀ x ∈ next :: rest,
          (closings (close fails (r :: next :: rest)).1).count x =
            (closings (close fails (next :: rest)).1).count x := fun x hx => by
        have other : r ≠ x := fun same => new (same ▸ hx)
        rw [closed, List.count_cons_of_ne other]
      rw [List.forall_mem_cons (a := r), List.forall_mem_cons (a := r), closed,
        List.count_cons_self, first, ← closed, ← ih once]
      simp only [failing, true_and]
      exact forall₂_congr fun x hx => by rw [others x hx]

lemma openings_close (fails : Resource → Option ε) (rs : List Resource) :
    openings (close fails rs).1 = [] := by
  induction rs with
  | nil => rfl
  | cons r rest ih =>
    rw [close]
    cases fails r with
    | some e => rfl
    | none => exact ih

/-- Closing has no error exactly when no resource is stuck, and then none of them fails. -/
lemma close_spec (fails : Resource → Option ε) (rs : List Resource) :
    ((∀ x, Happening.stuck x ∉ (close fails rs).1) ↔ (close fails rs).2 = none) ∧
      ((close fails rs).2 = none ↔ ∀ x ∈ rs, fails x = none) := by
  induction rs with
  | nil => simp [close]
  | cons r rest ih =>
    rw [close]
    cases failing : fails r with
    | some e => simp [failing]
    | none => simpa [failing] using ih

/-! ## The parts -/

/-- What a part does is neither to open nor to close. -/
lemma apart_ends (part : String) (how : Race.Ending ε) :
    ∀ h ∈ ends part how, h.opening? = none ∧ h.closing? = none := by
  intro h mem
  rcases List.mem_append.mp mem with note | ended
  · split at note
    · obtain rfl := List.mem_singleton.mp note
      exact ⟨rfl, rfl⟩
    · cases note
  · obtain rfl := List.mem_singleton.mp ended
    exact ⟨rfl, rfl⟩

lemma apart_begins (d : Deployment) (p : Race.Part ε) :
    ∀ h ∈ begins d p, h.opening? = none ∧ h.closing? = none := by
  intro h mem
  rcases List.mem_cons.mp mem with rfl | mem
  · exact ⟨rfl, rfl⟩
  rcases List.mem_append.mp mem with greeted | ended
  · unfold greeting at greeted
    split at greeted
    · obtain rfl := List.mem_singleton.mp greeted
      exact ⟨rfl, rfl⟩
    · cases greeted
  · cases how : p.ending with
    | none => simp [how] at ended
    | some e => exact apart_ends p.name e h (by simpa [how] using ended)

lemma apart_race (d : Deployment) (parts : List (Race.Part ε)) :
    ∀ h ∈ race d parts, h.opening? = none ∧ h.closing? = none := by
  intro h mem
  rcases List.mem_append.mp mem with mem | ceased
  · rcases List.mem_append.mp mem with begun | noted
    · obtain ⟨p, -, mem⟩ := List.mem_flatMap.mp begun
      exact apart_begins d p h mem
    · obtain ⟨entry, -, rfl⟩ := List.mem_map.mp noted
      exact ⟨rfl, rfl⟩
  · obtain ⟨p, -, mem⟩ := List.mem_flatMap.mp ceased
    unfold ceases at mem
    split at mem
    · cases mem
    · exact apart_ends p.name .cancelled h mem

lemma closings_race (d : Deployment) (parts : List (Race.Part ε)) :
    closings (race d parts) = [] :=
  List.filterMap_eq_nil_iff.mpr fun h mem => (apart_race d parts h mem).2

lemma openings_race (d : Deployment) (parts : List (Race.Part ε)) :
    openings (race d parts) = [] :=
  List.filterMap_eq_nil_iff.mpr fun h mem => (apart_race d parts h mem).1

/-- **By the end of the race every part has ended**, by itself or by being cancelled. -/
theorem ended_mem_race (d : Deployment) {parts : List (Race.Part ε)} {p : Race.Part ε}
    (mem : p ∈ parts) : Happening.ended p.name p.final ∈ race d parts := by
  have last (how : Race.Ending ε) : Happening.ended p.name how ∈ ends p.name how :=
    List.mem_append_right _ List.mem_cons_self
  rw [Race.Part.final]
  cases how : p.ending with
  | some e =>
    have here : Happening.ended p.name e ∈ begins d p :=
      List.mem_cons_of_mem _ (List.mem_append_right _ (by simpa [how] using last e))
    exact List.mem_append_left _ (List.mem_append_left _ (List.mem_flatMap.mpr ⟨p, mem, here⟩))
  | none =>
    have here : Happening.ended p.name .cancelled ∈ ceases p := by
      simpa [ceases, Race.Part.isDone, how] using last .cancelled
    exact List.mem_append_right _ (List.mem_flatMap.mpr ⟨p, mem, here⟩)

/-! ## Whole runs -/

/-- An orderly run: each resource that it opens is closed once; by the first closing all parts have
ended, those that would have gone on by being cancelled; and when everything could be opened and
closed, the run ends with the first error of a part, if there is one. -/
structure Run.Orderly (r : Run ε) (c : Conditions ε) : Prop where
  closed : ∀ x, .opened x ∈ r.happenings → (closings r.happenings).count x = 1
  ended : ∀ before h after, r.happenings = before ++ h :: after → h.closing?.isSome = true →
    ∀ p ∈ c.parts, .ended p.name p.final ∈ before
  result : r.shared.isSome = true → (∀ x, .stuck x ∉ r.happenings) →
    r.result =
      match Race.failure? c.parts with
      | some e => .error (.failed e)
      | none => .ok ()

/-- What an orderly run takes: opening fails before anything has been opened, if it does, and
otherwise no resource but the last one fails to close, and there are parts to run, unless the last
one does. -/
def Conditions.Favourable (c : Conditions ε) (s : Settings) : Prop :=
  match build c.reaches s (ε := ε) with
  | (opening, .error _) => openings opening = []
  | (_, .ok d) =>
    (∀ x ∈ d.resources.dropLast, c.closing x = none) ∧
      (c.parts = [] → c.closing .store ≠ none)

/-- What is in front of the first closing is in front of every closing. -/
lemma subset_of_closing {quiet rest before after : List (Happening ε)} {h : Happening ε}
    (none_closed : closings quiet = []) (split : quiet ++ rest = before ++ h :: after)
    (closing : h.closing?.isSome = true) : quiet ⊆ before := by
  rcases List.append_eq_append_iff.mp split with ⟨more, rfl, -⟩ | ⟨more, rfl, tail⟩
  · exact List.subset_append_left _ _
  · rcases more with _ | ⟨k, more⟩
    · simp
    · obtain ⟨rfl, -⟩ := List.cons.inj tail
      have closed : h ∈ before ++ h :: more := by simp
      have apart := List.filterMap_eq_nil_iff.mp none_closed h closed
      simp [apart] at closing

lemma nodup_resources (d : Deployment) : d.resources.Nodup := by
  rw [resources]
  cases isClosable d.notifications <;> decide

lemma mem_resources {d : Deployment} {x : Resource} (other : x ∈ d.resources) :
    x ∈ d.resources.dropLast ∨ x = .store := by
  rw [resources] at other ⊢
  generalize isClosable d.notifications = closable at other ⊢
  cases closable <;> cases x <;> simp at other ⊢

/-- A run that cannot open everything is orderly exactly when it opens nothing. -/
lemma orderly_unbuilt {c : Conditions ε} {opening : List (Happening ε)}
    {result : Except (Stop ε) Unit} (none_closed : closings opening = []) :
    (Run.mk opening none result).Orderly c ↔ openings opening = [] := by
  constructor
  · intro orderly
    refine List.eq_nil_iff_forall_not_mem.mpr fun x opened => ?_
    have once := orderly.closed x (mem_openings.mp opened)
    rw [none_closed] at once
    cases once
  · intro nothing
    refine ⟨fun x opened => ?_, fun before h after split closing => ?_, fun built => ?_⟩
    · have opened := mem_openings.mpr opened
      rw [nothing] at opened
      cases opened
    · have mem : h ∈ opening := by
        rw [show opening = before ++ h :: after from split]
        simp
      have apart := List.filterMap_eq_nil_iff.mp none_closed h mem
      simp [apart] at closing
    · cases built

/-- Where nothing is closed, nothing is stuck. -/
lemma stuck_notMem {hs : List (Happening ε)} (unclosed : closings hs = []) (x : Resource) :
    Happening.stuck x ∉ hs := fun mem => by
  have apart := List.filterMap_eq_nil_iff.mp unclosed _ mem
  cases apart

/-- With parts to run, a run that closes everything ends as the race does. -/
lemma verdict_of_ne_nil {parts : List (Race.Part ε)} (some_part : parts ≠ []) :
    verdict parts =
      match Race.failure? parts with
      | some e => .error (.failed e)
      | none => .ok () := by
  have wanted : parts.isEmpty = false := by simpa using some_part
  rw [verdict, wanted]
  rfl

/-- A run that can open everything is orderly exactly when no resource but the last one fails to
close, and there are parts to run, unless the last one does.

**Proof sketch.** What happens is the opening, the race and the closing, and only the last of them
closes anything; so the parts have ended in front of every closing. What has been opened are the
resources, and closing comes to all of them when none but the last one fails. Then the result is
the verdict on the parts, or nothing is said about it. -/
lemma orderly_built {c : Conditions ε} {s : Settings} {opening : List (Happening ε)}
    {d : Deployment} (built : build c.reaches s = (opening, .ok d)) :
    (Run.mk (opening ++ race d c.parts ++ (close c.closing d.resources).1) (some d)
        (match (close c.closing d.resources).2 with
        | some e => .error (.unclosed e)
        | none => verdict c.parts)).Orderly c ↔
      (∀ x ∈ d.resources.dropLast, c.closing x = none) ∧
        (c.parts = [] → c.closing .store ≠ none) := by
  have unclosed : closings (opening ++ race d c.parts) = [] := by
    have first := closings_build (ε := ε) c.reaches s
    rw [built] at first
    rw [closings_append, first, closings_race, List.append_nil]
  have all : closings (opening ++ race d c.parts ++ (close c.closing d.resources).1) =
      closings (close c.closing d.resources).1 := by
    rw [closings_append, unclosed, List.nil_append]
  have opened (x : Resource) :
      Happening.opened x ∈ opening ++ race d c.parts ++ (close c.closing d.resources).1 ↔
        x ∈ d.resources := by
    rw [← mem_openings, openings_append, openings_append, opened_of_build built, openings_race,
      openings_close]
    simp
  have count := count_closings_iff c.closing (nodup_resources d)
  obtain ⟨stuck, fault⟩ := close_spec c.closing d.resources
  constructor
  · intro orderly
    have others := count.mp fun x mem => all ▸ orderly.closed x ((opened x).mpr mem)
    refine ⟨others, fun nobody free => ?_⟩
    have closes : (close c.closing d.resources).2 = none :=
      fault.mpr fun x mem => (mem_resources mem).elim (others x) fun last => last ▸ free
    have result := orderly.result rfl fun x mem => (List.mem_append.mp mem).elim
      (stuck_notMem unclosed x) (stuck.mpr closes x)
    simp [closes, nobody, verdict, Race.failure?] at result
  · rintro ⟨others, wanted⟩
    refine ⟨fun x mem => ?_, fun before h after split closing p mem => ?_, fun _ quiet => ?_⟩
    · exact all ▸ count.mpr others x ((opened x).mp mem)
    · have raced : Happening.ended p.name p.final ∈ opening ++ race d c.parts :=
        List.mem_append_right _ (ended_mem_race d mem)
      exact subset_of_closing unclosed split closing raced
    · have closes := stuck.mp fun x mem => quiet x (List.mem_append_right _ mem)
      have some_part : c.parts ≠ [] := fun nobody =>
        wanted nobody (fault.mp closes .store (by simp [resources]))
      simp only [closes, verdict_of_ne_nil some_part]

/-- **When a run is orderly.** A run has no end exactly when everything can be opened and there are
parts, none of which ends by itself. A run that ends has closed everything that it opened, once and
after all of its parts, and ends as the race does, exactly when its conditions are favourable. -/
theorem orderly_iff (s : Settings) (c : Conditions ε) :
    (run? s c = none ↔
      (∃ opening d, build c.reaches s (ε := ε) = (opening, .ok d)) ∧ c.parts ≠ [] ∧
        ∀ p ∈ c.parts, p.ending = none) ∧
      ∀ r, run? s c = some r → (r.Orderly c ↔ c.Favourable s) := by
  rcases built : build (ε := ε) c.reaches s with ⟨opening, f | d⟩
  · have run : run? s c = some ⟨opening, none, .error (.unbuilt f)⟩ := by rw [run?, built]
    refine ⟨by simp [run], fun r ends => ?_⟩
    obtain rfl := Option.some.inj (run.symm.trans ends)
    have unclosed := closings_build (ε := ε) c.reaches s
    rw [built] at unclosed
    rw [orderly_unbuilt unclosed, Conditions.Favourable, built]
  · have ended : (c.parts.isEmpty || Race.isOver c.parts) = false ↔
        c.parts ≠ [] ∧ ∀ p ∈ c.parts, p.ending = none := by
      simp [Race.isOver, Race.Part.isDone]
    refine ⟨?_, fun r ends => ?_⟩
    · rw [run?, built, ← ended]
      dsimp only
      generalize (c.parts.isEmpty || Race.isOver c.parts) = done
      cases done <;> simp
    · rw [run?, built] at ends
      dsimp only at ends
      split at ends
      · obtain rfl := Option.some.inj ends
        rw [Conditions.Favourable, built]
        exact orderly_built built
      · cases ends

/-- A database, a channel and a push service, of which the key may be missing. -/
def sampleSettings (key : Option Settings.Secret) : Settings where
  app := default
  logging := default
  store := { (default : Settings.Store) with
    backend := "postgres"
    databaseUrl := some ⟨"postgresql+psycopg://koru@localhost/koru"⟩ }
  eventBus := { (default : Settings.EventBus) with
    backend := "redis"
    redisUrl := "redis://localhost:6379/0" }
  notifications := { (default : Settings.Notifications) with
    provider := "pushy"
    pushyToken := key }

/-- Requests are served until the end; the part that handles events fails. -/
def sampleConditions : Conditions String where
  serving := some none
  working := some (some (.failed "redis went away"))
  reaches _ := true
  closing
    | .store => some "no answer"
    | .transport | .notifications => none

/-- The store fails to close, after all others have been closed. -/
theorem orderly_sampleSettings : ∃ r,
    run? (sampleSettings (some ⟨"key"⟩)) sampleConditions = some r ∧ r.Orderly sampleConditions := by
  have favourable : sampleConditions.Favourable (sampleSettings (some ⟨"key"⟩)) := by
    refine ⟨?_, fun _ free => by cases free⟩
    intro x mem
    have known : x ∈ [Resource.notifications, .transport] := mem
    cases x with
    | store => simp at known
    | transport | notifications => rfl
  exact ⟨_, rfl, ((orderly_iff (sampleSettings _) sampleConditions).2 _ rfl).mpr favourable⟩

/-- **Without a key** the push service cannot be used. The database and the channel have been opened
by then, and stay open. -/
theorem not_orderly_sampleSettings : ∃ r,
    run? (sampleSettings none) sampleConditions = some r ∧ ¬ r.Orderly sampleConditions := by
  refine ⟨_, rfl, fun orderly => ?_⟩
  have once := orderly.closed .store List.mem_cons_self
  cases once

end CommonPurse.Deployment
