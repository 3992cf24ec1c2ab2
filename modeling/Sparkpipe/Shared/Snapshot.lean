import Sparkpipe.Shared.Tracking

/-!
# What a read sees

A read takes the words of a slot one by one. It has seen one publication as a whole when
the slot is ready and of the same generation before and after: a slot leaves the state
ready only by being taken, the process that takes it counts the generation up before it
writes anything else, and it is counted up again for each later publication.
-/

namespace Sparkpipe.KvSharedIndex

variable {slotCount : Nat} {system : System} {self : Holder} {slot place generation : Nat} {publication : Publication}

section Steps

/-- A step of the search for a slot, which takes none. -/
theorem ReserveStep.act_away {memory : Memory} {step : ReserveStep}
    (takesFree : ∀ slot, step ≠ .takeFree slot) (takes : ∀ slot, step ≠ .take slot) :
    (step.act slotCount memory).Still ∧ (step.act slotCount memory).next.about = none := by
  by_cases loads : step.loads = true
  · obtain ⟨next, acts, looks⟩ := ReserveStep.act_loads slotCount memory loads
    rw [acts]
    exact ⟨Act.still_of_none rfl rfl, looks.about⟩
  · cases step with
    | loadFree | loadState | loadHolders | loadLastUse | reloadLastUse => exact absurd rfl loads
    | takeFree slot => exact absurd rfl (takesFree slot)
    | take victim => exact absurd rfl (takes victim)
    | lock victim =>
      rw [ReserveStep.act]
      split
      · exact ⟨Act.still_of_some rfl rfl (by simp), rfl⟩
      · exact ⟨Act.still_of_none rfl rfl, (victimFrom_looks slotCount 0 {}).about⟩
    | unlock victim =>
      exact ⟨Act.still_of_some rfl rfl (by simp [ReserveStep.act]), (victimFrom_looks slotCount 0 {}).about⟩

/-- A still step of a publication. -/
theorem Tracked.take_publish (tracked : Tracked system place) {act : Act} {step : PublishStep}
    (here : system.pc self = .publish slot publication step)
    (acts : (system.pc self).act slotCount self system.memory = act) (still : act.Still)
    (next : act.next = .idle ∨ ∃ after, act.next = .publish slot publication after ∧ after ≠ .state ∧
      after.Filled publication (system.slot slot).published) : Tracked (system.take slotCount self) place := by
  have unclaimed : ∀ index other, act.next ≠ .claim index other := by
    rcases next with idle | ⟨after, goes, _⟩
    · simp [idle]
    · simp [goes]
  have unread : ∀ index query other, act.next ≠ .read index query other := by
    rcases next with idle | ⟨after, goes, _⟩
    · simp [idle]
    · simp [goes]
  apply tracked.take_still acts still
  · simp [here]
  · intro _ other
    simp [here]
  · exact fun other generation claims => absurd claims (unclaimed place other)
  · intro other publishes
    rcases next with idle | ⟨after, goes, notLast, _⟩
    · simp [idle] at publishes
    · rw [goes] at publishes
      simp only [Pc.publish.injEq] at publishes
      exact absurd publishes.2.2 notLast
  · intro other step publishes
    rcases next with idle | ⟨after, goes, _, filled⟩
    · simp [idle] at publishes
    · rw [goes] at publishes
      simp only [Pc.publish.injEq] at publishes
      obtain ⟨rfl, rfl, rfl⟩ := publishes
      exact filled
  · exact fun query earlier read => absurd read (unread place query _)
  · exact fun query step view read => absurd read (unread place query step)

/-- The words up to one agree when that word has been copied and those before it agreed. -/
theorem identity_copied {source target : Fin 4 → UInt64} {word : Fin 4}
    (agree : ∀ earlier < word, target earlier = source earlier) :
    ∀ earlier ≤ word, Function.update target word (source word) earlier = source earlier := by
  intro earlier bound
  by_cases here : earlier = word
  · rw [here, Function.update_self]
  · rw [Function.update_of_ne here]
    exact agree earlier (lt_of_le_of_ne bound here)

/-- After the last word they all agree. -/
theorem identity_complete {source target : Fin 4 → UInt64} {word : Fin 4} (last : ¬ word.val + 1 < 4)
    (agree : ∀ earlier ≤ word, target earlier = source earlier) : target = source := by
  funext index
  apply agree
  rw [Fin.le_def]
  omega

theorem identity_next {source target : Fin 4 → UInt64} {word : Fin 4} (more : word.val + 1 < 4)
    (agree : ∀ earlier ≤ word, target earlier = source earlier) :
    ∀ earlier < (⟨word.val + 1, more⟩ : Fin 4), target earlier = source earlier := by
  intro earlier bound
  apply agree
  rw [Fin.lt_def] at bound
  rw [Fin.le_def]
  exact Nat.lt_succ_iff.mp bound

/-- A still step of a read or of a search, which goes on to a step of the read or leaves the slot. -/
theorem Tracked.take_read (tracked : Tracked system place) {act : Act} {query : Option Query}
    (outside : ∀ index step, system.pc self ≠ .claim index step)
    (acts : (system.pc self).act slotCount self system.memory = act) (still : act.Still)
    (next : act.next.about = none ∨ ∃ after, act.next = .read slot query after ∧
      (∀ before, after = .state before → before ≤ (system.slot slot).generation) ∧
      ∀ view, after.view = some view → view.generation ≤ (system.slot slot).generation ∧
        (view.generation = (system.slot slot).generation → Settled system slot ∧
          after.Seen (system.slot slot).published)) : Tracked (system.take slotCount self) place := by
  have cases_ : ∀ pc, pc.about = some place → act.next = pc → ∃ after, pc = .read slot query after ∧
      (∀ before, after = .state before → before ≤ (system.slot slot).generation) ∧
      ∀ view, after.view = some view → view.generation ≤ (system.slot slot).generation ∧
        (view.generation = (system.slot slot).generation → Settled system slot ∧
          after.Seen (system.slot slot).published) := by
    rintro pc about rfl
    rcases next with away | reads
    · exact absurd_none (away.symm.trans about)
    · exact reads
  apply tracked.take_still acts still
  · exact outside place _
  · exact fun _ => outside place
  · intro step claimed claims
    obtain ⟨after, same, _⟩ := cases_ _ rfl claims
    exact Pc.noConfusion same
  · intro other publishes
    obtain ⟨after, same, _⟩ := cases_ _ rfl publishes
    exact Pc.noConfusion same
  · intro other step publishes
    obtain ⟨after, same, _⟩ := cases_ _ rfl publishes
    exact Pc.noConfusion same
  · intro other before reads
    obtain ⟨after, same, begun, _⟩ := cases_ _ rfl reads
    simp only [Pc.read.injEq] at same
    obtain ⟨rfl, _, rfl⟩ := same
    exact begun before rfl
  · intro other step view reads filling
    obtain ⟨after, same, _, seen⟩ := cases_ _ rfl reads
    simp only [Pc.read.injEq] at same
    obtain ⟨rfl, _, rfl⟩ := same
    exact seen view filling

/-- A read that is over is about no slot any more. -/
theorem readDone_about (slotCount : Nat) (self : Holder) (slot : Nat) (view : View) (query : Option Query) :
    (readDone slotCount self slot view query).Still ∧ (readDone slotCount self slot view query).next.about = none := by
  cases query with
  | none =>
    refine ⟨⟨by simp [readDone], ?_⟩, rfl⟩
    intro event happened
    obtain rfl := Option.some.inj happened
    rfl
  | some query =>
    rw [readDone]
    split
    · refine ⟨⟨by simp, ?_⟩, rfl⟩
      intro event happened
      obtain rfl := Option.some.inj happened
      rfl
    · exact ⟨Act.still_of_none rfl rfl, (findFrom_looks slotCount (slot + 1) query).about⟩

section

variable (tracked : ∀ place, Tracked system place)
include tracked

theorem acquire_tracked {step : AcquireStep} (here : system.pc self = .acquire slot generation step) (place : Nat) :
    Tracked (system.take slotCount self) place := by
  cases step with
  | holders =>
    apply (tracked place).take_away here rfl (Act.still_of_some rfl rfl (by simp [Pc.act, AcquireStep.act])) rfl
    rw [Pc.act, AcquireStep.act]
    dsimp only
    split
    · rfl
    · split
      · rfl
      · rfl
  | loadState | loadGeneration | clock =>
    exact (tracked place).take_away here rfl (Act.still_of_none rfl rfl) rfl rfl
  | undo =>
    exact (tracked place).take_away here rfl (Act.still_of_some rfl rfl (by simp [Pc.act, AcquireStep.act])) rfl rfl
  | lastUse now =>
    refine (tracked place).take_away here rfl (Act.still_of_some rfl rfl ?_) rfl rfl
    intro event happened
    obtain rfl := Option.some.inj happened
    rfl

theorem release_tracked {step : ReleaseStep}
    (here : system.pc self = .release slot step) (place : Nat) : Tracked (system.take slotCount self) place := by
  cases step with
  | clock => exact (tracked place).take_away here rfl (Act.still_of_none rfl rfl) rfl rfl
  | lastUse | holders =>
    exact (tracked place).take_away here rfl (Act.still_of_some rfl rfl (by simp [Pc.act, ReleaseStep.act])) rfl rfl

theorem find_tracked {query : Query} (here : system.pc self = .find slot query) (place : Nat) :
    Tracked (system.take slotCount self) place := by
  have acts : (system.pc self).act slotCount self system.memory =
      Pc.act slotCount self system.memory (.find slot query) := by
    rw [here]
  have outside : ∀ index step, system.pc self ≠ .claim index step := by simp [here]
  have still : (Pc.act slotCount self system.memory (.find slot query)).Still := Act.still_of_none rfl rfl
  by_cases first : (system.slot slot).published.identity 0 = query.identity 0
  · apply (tracked place).take_read outside acts still
    exact .inr ⟨.generation, if_pos first, by simp, fun view none => absurd_none none⟩
  · apply (tracked place).take_away here rfl still rfl
    have goes : (Pc.act slotCount self system.memory (.find slot query)).next = findFrom slotCount (slot + 1) query :=
      if_neg first
    rw [goes]
    exact (findFrom_looks ..).about

theorem readIdentity_tracked {query : Option Query} {view : View}
    {word : Fin 4} (here : system.pc self = .read slot query (.identity view word)) (place : Nat) :
    Tracked (system.take slotCount self) place := by
  have acts : _ = ReadStep.act slotCount self system.memory slot query (.identity view word) :=
    acts_at slotCount here
  have outside : ∀ index step, system.pc self ≠ .claim index step := by simp [here]
  obtain ⟨bound, current⟩ := (tracked slot).seen self query _ view here rfl
  apply (tracked place).take_read outside acts (Act.still_of_none rfl rfl)
  by_cases more : word.val + 1 < 4
  · refine .inr ⟨_, dif_pos more, by simp, ?_⟩
    intro filled same
    obtain rfl := Option.some.inj same
    refine ⟨bound, fun now => ?_⟩
    obtain ⟨settled, agree⟩ := current now
    exact ⟨settled, identity_next more (identity_copied agree)⟩
  · refine .inr ⟨_, dif_neg more, by simp, ?_⟩
    intro filled same
    obtain rfl := Option.some.inj same
    refine ⟨bound, fun now => ?_⟩
    obtain ⟨settled, agree⟩ := current now
    exact ⟨settled, identity_complete more (identity_copied agree)⟩

theorem read_tracked {query : Option Query} {step : ReadStep}
    (here : system.pc self = .read slot query step) (place : Nat) : Tracked (system.take slotCount self) place := by
  have acts : _ = step.act slotCount self system.memory slot query := acts_at slotCount here
  have outside : ∀ index other, system.pc self ≠ .claim index other := by simp [here]
  cases step with
  | generation =>
    apply (tracked place).take_read outside acts (Act.still_of_none rfl rfl)
    refine .inr ⟨_, rfl, ?_, fun view none => absurd_none none⟩
    intro before same
    obtain rfl := ReadStep.state.inj same
    exact le_rfl
  | state before =>
    have bound := (tracked slot).begun self query before here
    apply (tracked place).take_read outside acts (Act.still_of_none rfl rfl)
    by_cases ready : (system.slot slot).state = .ready
    · refine .inr ⟨_, if_pos ready, by simp, ?_⟩
      intro view same
      obtain rfl := Option.some.inj same
      refine ⟨bound, fun now => ⟨⟨(tracked slot).ready ready, .inl ready⟩, ?_⟩⟩
      exact fun earlier below => absurd below (Fin.not_lt_zero earlier)
    · have fails : (ReadStep.act slotCount self system.memory slot query (.state before)).next =
          readFailed slotCount slot query := if_neg ready
      rw [fails]
      exact .inl (readFailed_looks ..).about
  | identity view word => exact readIdentity_tracked tracked here place
  | tokenCount view =>
    obtain ⟨bound, current⟩ := (tracked slot).seen self query _ view here rfl
    apply (tracked place).take_read outside acts (Act.still_of_none rfl rfl)
    refine .inr ⟨_, rfl, by simp, ?_⟩
    intro filled same
    obtain rfl := Option.some.inj same
    exact ⟨bound, fun now => ⟨(current now).1, (current now).2, rfl⟩⟩
  | parentSlot view =>
    obtain ⟨bound, current⟩ := (tracked slot).seen self query _ view here rfl
    apply (tracked place).take_read outside acts (Act.still_of_none rfl rfl)
    refine .inr ⟨_, rfl, by simp, ?_⟩
    intro filled same
    obtain rfl := Option.some.inj same
    exact ⟨bound, fun now => ⟨(current now).1, (current now).2.1, (current now).2.2, rfl⟩⟩
  | parentGeneration view =>
    obtain ⟨bound, current⟩ := (tracked slot).seen self query _ view here rfl
    apply (tracked place).take_read outside acts (Act.still_of_none rfl rfl)
    refine .inr ⟨_, rfl, by simp, ?_⟩
    intro filled same
    obtain rfl := Option.some.inj same
    refine ⟨bound, fun now => ⟨(current now).1, ?_⟩⟩
    obtain ⟨identity, tokenCount, parentSlot⟩ := (current now).2
    have words : (system.memory.slots slot).published = (system.slot slot).published := rfl
    simp [ReadStep.Seen, words, identity, tokenCount, parentSlot]
  | stateAgain view =>
    have seen := (tracked slot).seen self query _ view here rfl
    apply (tracked place).take_read outside acts (Act.still_of_none rfl rfl)
    by_cases ready : (system.slot slot).state = .ready
    · refine .inr ⟨_, if_pos ready, by simp, ?_⟩
      intro filled same
      obtain rfl := Option.some.inj same
      exact seen
    · have fails : (ReadStep.act slotCount self system.memory slot query (.stateAgain view)).next =
          readFailed slotCount slot query := if_neg ready
      rw [fails]
      exact .inl (readFailed_looks ..).about
  | generationAgain view =>
    by_cases same : (system.slot slot).generation = view.generation
    · obtain ⟨still, away⟩ := readDone_about slotCount self slot view query
      exact (tracked place).take_over (acts.trans (if_pos same)) still (outside place) away
    · have still : Act.Still { next := readFailed slotCount slot query } := Act.still_of_none rfl rfl
      exact (tracked place).take_over (acts.trans (if_neg same)) still (outside place) (readFailed_looks ..).about

variable (exclusive : Exclusive system)
include exclusive

theorem reserve_tracked {step : ReserveStep}
    (here : system.pc self = .reserve step) (place : Nat) : Tracked (system.take slotCount self) place := by
  have away (takesFree : ∀ slot, step ≠ .takeFree slot) (takes : ∀ slot, step ≠ .take slot) :
      Tracked (system.take slotCount self) place :=
    (tracked place).take_away here rfl (ReserveStep.act_away takesFree takes).1 rfl
      (ReserveStep.act_away takesFree takes).2
  cases step with
  | takeFree slot =>
    by_cases free : (system.slot slot).state = .free
    · have idle : (system.slot slot).state ≠ .writing := by simp [free]
      exact Tracked.take_enter tracked exclusive here rfl idle (if_pos free) place
    · exact (tracked place).take_away here (if_neg free) (Act.still_of_none rfl rfl) rfl
        (freeFrom_looks slotCount (slot + 1)).about
  | take slot =>
    by_cases ready : (system.slot slot).state = .ready
    · have idle : (system.slot slot).state ≠ .writing := by simp [ready]
      exact Tracked.take_enter tracked exclusive here rfl idle (if_pos ready) place
    · exact (tracked place).take_away here (if_neg ready) (Act.still_of_none rfl rfl) rfl rfl
  | loadFree | loadState | loadHolders | loadLastUse | reloadLastUse | lock | unlock =>
    exact away (by simp) (by simp)

/-- The process that has taken a slot counts its generation up: no reader is of the new generation. -/
theorem claimGeneration_tracked (here : system.pc self = .claim slot .generation) (place : Nat) :
    Tracked (system.take slotCount self) place := by
  have acts : _ = ClaimStep.act self system.memory slot .generation := acts_at slotCount here
  have owns : (system.pc self).unnamed = some slot := by simp [here, Pc.unnamed]
  have unwritten := (exclusive.unnamed self slot owns).2
  have writing := (exclusive.unnamed self slot owns).1
  have pc : (system.take slotCount self).pc self = .claim slot (.writer ((system.slot slot).generation + 1)) := by
    rw [take_pc, acts]
    rfl
  have word : (system.take slotCount self).slot slot =
      (system.slot slot).write (.generation ((system.slot slot).generation + 1)) :=
    take_slot (by rw [acts]; rfl)
  refine Tracked.take_turn acts rfl (fun _ _ _ => rfl) ?_ ?_ tracked ?_ place
  · intro index about
    rw [here] at about
    exact (Option.some.inj about).symm
  · exact fun index about => (Option.some.inj about).symm
  · apply (tracked slot).turn (fun other apart => take_pc_other apart) fun other apart => exclusive.alone owns apart
    · rw [word]
      exact Nat.le_succ _
    · rw [word]
      exact fun same => absurd same (Nat.succ_ne_self _)
    · rw [pc]
      exact fun query step read => Pc.noConfusion read
    · rw [word]
      exact fun ready => absurd (writing.symm.trans ready) (by simp)
    · rw [word]
      exact fun other written => absurd_none (unwritten.symm.trans written)
    · rw [pc, word]
      intro step generation claims counted
      obtain rfl : ClaimStep.writer ((system.slot slot).generation + 1) = step := by simpa using claims
      exact Option.some.inj counted
    · rw [word]
      exact fun written => absurd_none (unwritten.symm.trans written)
    · rw [pc]
      exact fun publication publishes => Pc.noConfusion publishes
    · rw [pc]
      exact fun publication step publishes => Pc.noConfusion publishes

theorem claim_tracked {step : ClaimStep}
    (here : system.pc self = .claim slot step) (place : Nat) : Tracked (system.take slotCount self) place := by
  have acts : _ = step.act self system.memory slot := acts_at slotCount here
  have before : ∀ index, (system.pc self).about = some index → index = slot := by
    intro index about
    rw [here] at about
    exact (Option.some.inj about).symm
  cases step with
  | generation => exact claimGeneration_tracked tracked exclusive here place
  | writer generation =>
    have counted := (tracked slot).claimed self _ generation here rfl
    have owns : (system.pc self).unnamed = some slot := by simp [here, Pc.unnamed]
    have writing := (exclusive.unnamed self slot owns).1
    refine Tracked.take_own acts rfl (fun _ _ _ => rfl) before ?_ tracked exclusive (.inl owns) (by simp [here])
      ?_ rfl ?_ ?_ ?_ ?_ ?_ ?_ place
    · exact fun index about => (Option.some.inj about).symm
    · exact fun query step read => Pc.noConfusion read
    · exact fun ready => absurd (writing.symm.trans ready) (by simp)
    · exact fun other named => (Option.some.inj named).symm
    · intro step claimed claims same
      obtain rfl : ClaimStep.holders generation = step := by simpa [ClaimStep.act] using claims
      exact counted.trans (Option.some.inj same)
    · exact fun _ outside => absurd rfl (outside (.holders generation))
    · exact fun publication publishes => Pc.noConfusion publishes
    · exact fun publication step publishes => Pc.noConfusion publishes
  | holders generation =>
    have counted := (tracked slot).claimed self _ generation here rfl
    have still : (ClaimStep.act self system.memory slot (.holders generation)).Still :=
      Act.still_of_some rfl rfl (by simp [ClaimStep.act])
    apply (tracked place).take_still acts still
    · simp [here]
    · intro outside step same
      obtain ⟨rfl, _⟩ : slot = place ∧ ClaimStep.holders generation = step := by simpa [here] using same
      exact outside (.parentSlot generation) rfl
    · intro step claimed claims same
      obtain ⟨rfl, rfl⟩ : slot = place ∧ ClaimStep.parentSlot generation = step := by
        simpa [ClaimStep.act] using claims
      exact counted.trans (Option.some.inj same)
    · exact fun publication publishes => Pc.noConfusion publishes
    · exact fun publication step publishes => Pc.noConfusion publishes
    · exact fun query earlier read => Pc.noConfusion read
    · exact fun query step view read => Pc.noConfusion read
  | parentSlot generation =>
    have counted := (tracked slot).claimed self _ generation here rfl
    have works : (system.pc self).named = some slot := by simp [here, Pc.named]
    have written := exclusive.named self slot works
    have writing := exclusive.writing slot self written
    refine Tracked.take_own acts rfl ?_ before ?_ tracked exclusive (.inr works) (by simp [here])
      ?_ rfl ?_ ?_ ?_ ?_ ?_ ?_ place
    · intro elsewhere apart process
      have other : ¬ (self = process ∧ slot = elsewhere) := fun same => apart same.2.symm
      simp [ClaimStep.act, lastReserved, other]
    · exact fun index about => absurd_none about
    · exact fun query step read => Pc.noConfusion read
    · exact fun ready => absurd (writing.symm.trans ready) (by simp)
    · exact fun other named => Option.some.inj (named.symm.trans written)
    · exact fun step claimed claims => Pc.noConfusion claims
    · intro _ _
      simp [ClaimStep.act, lastReserved, counted]
    · exact fun publication publishes => Pc.noConfusion publishes
    · exact fun publication step publishes => Pc.noConfusion publishes

/-- A publication stores the next of its words. -/
theorem Tracked.take_fill {pc : Pc} (here : system.pc self = pc) (works : pc.named = some slot)
    (about : pc.about = some slot)
    (outside : ∀ place step, pc ≠ .claim place step) {write : Write} {next : PublishStep}
    (acts : pc.act slotCount self system.memory =
      { write := some (slot, write), next := .publish slot publication next })
    (words : ((system.slot slot).write write).state = (system.slot slot).state ∧
      ((system.slot slot).write write).writer = (system.slot slot).writer ∧
      ((system.slot slot).write write).generation = (system.slot slot).generation)
    (open_ : next ≠ .state) (filled : next.Filled publication ((system.slot slot).write write).published)
    (place : Nat) : Tracked (system.take slotCount self) place := by
  subst here
  have written := exclusive.named self slot works
  have writing := exclusive.writing slot self written
  have reserved := (tracked slot).issued self written (outside slot)
  refine Tracked.take_own acts rfl (fun _ _ _ => rfl) ?_ ?_ tracked exclusive (.inr works) (outside slot _)
    ?_ words.2.2 ?_ ?_ ?_ ?_ ?_ ?_ place
  · exact fun index same => Option.some.inj (same.symm.trans about)
  · exact fun index same => (Option.some.inj same).symm
  · exact fun query step read => Pc.noConfusion read
  · intro ready
    rw [words.1, writing] at ready
    exact SlotState.noConfusion ready
  · intro other named
    rw [words.2.1, written] at named
    exact (Option.some.inj named).symm
  · exact fun step claimed claims => Pc.noConfusion claims
  · exact fun _ _ => reserved
  · intro other publishes
    simp only [Pc.publish.injEq] at publishes
    exact absurd publishes.2.2 open_
  · intro other step publishes
    simp only [Pc.publish.injEq] at publishes
    obtain ⟨_, rfl, rfl⟩ := publishes
    exact filled

/-- The writer of a slot takes its name out; it has stored every word of its publication, if it makes
one. -/
theorem Tracked.take_unname {pc next : Pc} (here : system.pc self = pc) (works : pc.named = some slot)
    (about : ∀ index, pc.about = some index → index = slot) (outside : ∀ place step, pc ≠ .claim place step)
    (acts : pc.act slotCount self system.memory = { write := some (slot, .writer none), next := next })
    (after : ∀ index, next.about = some index → index = slot) (unread : ∀ query step, next ≠ .read slot query step)
    (unclaimed : ∀ step, next ≠ .claim slot step)
    (filled : ∀ publication step, next = .publish slot publication step →
      step.Filled publication (system.slot slot).published) (place : Nat) :
    Tracked (system.take slotCount self) place := by
  subst here
  have written := exclusive.named self slot works
  have writing := exclusive.writing slot self written
  have reserved := (tracked slot).issued self written (outside slot)
  refine Tracked.take_own acts rfl (fun _ _ _ => rfl) about after tracked exclusive (.inr works) (outside slot _)
    unread rfl ?_ ?_ ?_ ?_ ?_ filled place
  · exact fun ready => absurd (writing.symm.trans ready) (by simp)
  · exact fun other named => absurd_none named
  · exact fun step claimed claims => absurd claims (unclaimed step)
  · exact fun named => absurd_none named
  · exact fun _ _ => reserved

/-- The owner of a slot leaves it; if it leaves it ready, its publication is recorded. -/
theorem Tracked.take_leave {pc : Pc} (here : system.pc self = pc) (owns : pc.unnamed = some slot)
    (about : ∀ index, pc.about = some index → index = slot)
    (counted : pc ≠ .claim slot .generation) {state : SlotState} {event : Option Event}
    (acts : pc.act slotCount self system.memory =
      { write := some (slot, .state state), next := .idle, event := event })
    (same : ∀ process place, lastReserved process place (event.toList ++ system.log) =
      lastReserved process place system.log)
    (ready : state = .ready → Recorded (event.toList ++ system.log) slot (system.slot slot).generation
      (system.slot slot).published) (place : Nat) : Tracked (system.take slotCount self) place := by
  subst here
  have unwritten := (exclusive.unnamed self slot owns).2
  refine Tracked.take_own acts rfl (fun place _ process => same process place) about ?_ tracked exclusive (.inl owns)
    counted ?_ rfl ready ?_ ?_ ?_ ?_ ?_ place
  · exact fun index none => absurd_none none
  · exact fun query step read => Pc.noConfusion read
  · exact fun other written => absurd_none (unwritten.symm.trans written)
  · exact fun step claimed claims => Pc.noConfusion claims
  · exact fun written => absurd_none (unwritten.symm.trans written)
  · exact fun publication publishes => Pc.noConfusion publishes
  · exact fun publication step publishes => Pc.noConfusion publishes

theorem publishIdentity_tracked {word : Fin 4}
    (here : system.pc self = .publish slot publication (.identity word)) (place : Nat) :
    Tracked (system.take slotCount self) place := by
  have copied := identity_copied ((tracked slot).filled self publication _ here)
  by_cases more : word.val + 1 < 4
  · have goes : (Pc.publish slot publication (.identity word)).act slotCount self system.memory =
        { write := some (slot, .identity word (publication.identity word))
          next := .publish slot publication (.identity ⟨word.val + 1, more⟩) } := by
      rw [Pc.act, PublishStep.act, nextWord, dif_pos more]
    exact Tracked.take_fill tracked exclusive here rfl rfl (by simp) goes ⟨rfl, rfl, rfl⟩ (by simp)
      (identity_next more copied) place
  · have goes : (Pc.publish slot publication (.identity word)).act slotCount self system.memory =
        { write := some (slot, .identity word (publication.identity word))
          next := .publish slot publication .tokenCount } := by
      rw [Pc.act, PublishStep.act, nextWord, dif_neg more]
    exact Tracked.take_fill tracked exclusive here rfl rfl (by simp) goes ⟨rfl, rfl, rfl⟩ (by simp)
      (identity_complete more copied) place

theorem publish_tracked {step : PublishStep}
    (here : system.pc self = .publish slot publication step) (place : Nat) :
    Tracked (system.take slotCount self) place := by
  have acts : _ = step.act slotCount self system.memory slot publication := acts_at slotCount here
  have filled := (tracked slot).filled self publication step here
  cases step with
  | loadState =>
    apply (tracked place).take_publish here acts (Act.still_of_none rfl rfl)
    by_cases writing : (system.slot slot).state = .writing
    · exact .inr ⟨.loadWriter, if_pos writing, by simp, trivial⟩
    · exact .inl (if_neg writing)
  | loadWriter =>
    apply (tracked place).take_publish here acts (Act.still_of_none rfl rfl)
    by_cases writes : (system.slot slot).writer = some self ∧ publicationValid slotCount publication
    · refine .inr ⟨.identity 0, if_pos writes, by simp, ?_⟩
      exact fun earlier below => absurd below (Fin.not_lt_zero earlier)
    · exact .inl (if_neg writes)
  | identity word => exact publishIdentity_tracked tracked exclusive here place
  | tokenCount =>
    exact Tracked.take_fill tracked exclusive here rfl rfl (by simp) rfl ⟨rfl, rfl, rfl⟩ (by simp) ⟨filled, rfl⟩ place
  | parentSlot =>
    exact Tracked.take_fill tracked exclusive here rfl rfl (by simp) rfl ⟨rfl, rfl, rfl⟩ (by simp)
      ⟨filled.1, filled.2, rfl⟩ place
  | parentGeneration =>
    refine Tracked.take_fill tracked exclusive here rfl rfl (by simp) rfl ⟨rfl, rfl, rfl⟩ (by simp) ?_ place
    obtain ⟨identity, tokenCount, parentSlot⟩ := filled
    simp [PublishStep.Filled, Slot.write, identity, tokenCount, parentSlot]
  | clock =>
    apply (tracked place).take_publish here acts (Act.still_of_none rfl rfl)
    exact .inr ⟨.lastUse system.memory.clock, rfl, by simp, filled⟩
  | lastUse now =>
    apply (tracked place).take_publish here acts
      (Act.still_of_some rfl rfl (by simp [PublishStep.act]))
    exact .inr ⟨.writer, rfl, by simp, filled⟩
  | writer =>
    refine Tracked.take_unname tracked exclusive here rfl (fun index same => (Option.some.inj same).symm)
      (by simp) rfl ?_ (by simp) (by simp) ?_ place
    · exact fun index same => (Option.some.inj same).symm
    · intro other step publishes
      simp only [Pc.publish.injEq, true_and] at publishes
      obtain ⟨rfl, rfl⟩ := publishes
      exact filled
  | state =>
    refine Tracked.take_leave tracked exclusive here rfl (fun index same => (Option.some.inj same).symm)
      (by simp) rfl (fun _ _ => rfl) ?_ place
    intro _
    obtain rfl : (system.slot slot).published = publication := filled
    exact ⟨[], self, system.log, rfl, (tracked slot).closing self _ here⟩

theorem abandon_tracked {step : AbandonStep}
    (here : system.pc self = .abandon slot step) (place : Nat) : Tracked (system.take slotCount self) place := by
  cases step with
  | loadState | loadWriter =>
    apply (tracked place).take_away here rfl (Act.still_of_none rfl rfl) rfl
    rw [Pc.act, AbandonStep.act]
    dsimp only
    split
    · rfl
    · rfl
  | holders =>
    exact (tracked place).take_away here rfl (Act.still_of_some rfl rfl (by simp [Pc.act, AbandonStep.act])) rfl rfl
  | writer =>
    refine Tracked.take_unname tracked exclusive here rfl (fun index same => absurd_none same) (by simp) rfl ?_
      (by simp) (by simp) (by simp) place
    exact fun index same => absurd_none same
  | state =>
    exact Tracked.take_leave tracked exclusive here rfl (fun index same => absurd_none same) (by simp) rfl
      (fun _ _ => rfl) (by simp) place

theorem take_tracked (self : Holder) (place : Nat) : Tracked (system.take slotCount self) place := by
  cases here : system.pc self with
  | idle => exact (tracked place).take_away here rfl (Act.still_of_none rfl rfl) rfl rfl
  | reserve step => exact reserve_tracked tracked exclusive here place
  | claim slot step => exact claim_tracked tracked exclusive here place
  | publish slot publication step => exact publish_tracked tracked exclusive here place
  | abandon slot step => exact abandon_tracked tracked exclusive here place
  | acquire slot generation step => exact acquire_tracked tracked here place
  | release slot step => exact release_tracked tracked here place
  | find slot query => exact find_tracked tracked here place
  | read slot query step => exact read_tracked tracked here place

end

/-- A call begins before it has done anything. -/
theorem Call.start_fresh (slotCount : Nat) (call : Call) :
    (∀ slot step, call.start slotCount ≠ .claim slot step) ∧
    (∀ slot publication step, call.start slotCount = .publish slot publication step → step = .loadState) ∧
    ∀ slot query step, call.start slotCount = .read slot query step → step = .generation := by
  have away : (call.start slotCount).about = none →
      (∀ slot step, call.start slotCount ≠ .claim slot step) ∧
      (∀ slot publication step, call.start slotCount = .publish slot publication step → step = .loadState) ∧
      ∀ slot query step, call.start slotCount = .read slot query step → step = .generation := by
    intro none
    refine ⟨?_, ?_, ?_⟩
    · exact fun slot step here => absurd_none (none.symm.trans (congrArg Pc.about here))
    · exact fun slot publication step here =>
        absurd_none (none.symm.trans (congrArg Pc.about here))
    · exact fun slot query step here =>
        absurd_none (none.symm.trans (congrArg Pc.about here))
  cases call with
  | reserve => exact away (freeFrom_looks ..).about
  | find query => exact away (findFrom_looks ..).about
  | publish slot publication | abandon slot | acquire slot generation | release slot | read slot =>
    rw [Call.start] at away ⊢
    split
    · simp
    · simp

theorem enter_tracked (tracked : Tracked system place) (idle : system.pc self = .idle) (call : Call) :
    Tracked (system.enter slotCount self call) place := by
  obtain ⟨unclaimed, publishes, reads⟩ := call.start_fresh slotCount
  have pc := enter_pc slotCount system self call
  have silent : ∀ event ∈ (call.event self).toList, event.reserves = false := by
    cases call with
    | abandon slot => simp [Call.event, Event.reserves]
    | release slot => simp [Call.event, Event.reserves]
    | reserve | publish | acquire | read | find => simp [Call.event]
  have words : SameWords (system.slot place) ((system.enter slotCount self call).slot place) := ⟨rfl, rfl, rfl, rfl⟩
  apply tracked.keep words rfl (fun process => lastReserved_append silent process place)
    (fun other apart => enter_pc_other apart call)
  · simp [idle]
  · intro _ step
    simp [idle]
  · intro step generation claims
    exact absurd (pc.symm.trans claims) (unclaimed place step)
  · intro publication closes
    exact PublishStep.noConfusion (publishes place publication _ (pc.symm.trans closes))
  · intro publication step fills
    obtain rfl := publishes place publication step (pc.symm.trans fills)
    trivial
  · intro query before begins
    exact ReadStep.noConfusion (reads place query _ (pc.symm.trans begins))
  · intro query step view sees filling
    obtain rfl := reads place query step (pc.symm.trans sees)
    exact absurd_none filling

end Steps

section Views

/-- What a read or a search has returned was published as a whole before. -/
def Event.Shown (earlier : List Event) : Event → Prop
  | .viewed _ slot view => Recorded earlier slot view.generation view.published
  | .found _ query slot view => Recorded earlier slot view.generation view.published ∧
      view.published.identity = query.identity ∧ view.published.tokenCount = query.tokenCount
  | _ => True

def LogShown (log : List Event) : Prop := ∀ later event earlier, log = later ++ event :: earlier → event.Shown earlier

theorem LogShown.cons {log : List Event} {event : Event} (shown : LogShown log) (new : event.Shown log) :
    LogShown (event :: log) := by
  intro later other earlier same
  cases later with
  | nil =>
    obtain ⟨rfl, rfl⟩ := List.cons.inj same
    exact new
  | cons first rest => exact shown rest other earlier (List.cons.inj same).2

/-- What a step shows. -/
theorem take_shown (tracked : ∀ place, Tracked system place) (self : Holder) {event : Event}
    (happens : ((system.pc self).act slotCount self system.memory).event = some event) : event.Shown system.log := by
  rcases act_event happens with ⟨slot, generation, _, rfl⟩ | ⟨slot, publication, _, rfl⟩ |
    ⟨slot, generation, now, _, rfl⟩ | ⟨slot, query, view, here, same, shown⟩
  · trivial
  · trivial
  · trivial
  · have same : (system.slot slot).generation = view.generation := same
    obtain ⟨_, current⟩ := (tracked slot).seen self query _ view here rfl
    obtain ⟨settled, agrees⟩ := current same.symm
    have agrees : view.published = (system.slot slot).published := agrees
    have recorded : Recorded system.log slot view.generation view.published := by
      rw [agrees, ← same]
      exact settled.1
    rcases shown with rfl | ⟨sought, rfl, matching⟩
    · exact recorded
    · exact ⟨recorded, matching⟩

/-- One owner for each slot, what its writer and its readers have done, and what has been shown. -/
structure Consistent (system : System) : Prop where
  exclusive : Exclusive system
  tracked : ∀ slot, Tracked system slot
  shown : LogShown system.log

theorem initial_consistent : Consistent {} := by
  refine ⟨initial_exclusive, initial_tracked, ?_⟩
  intro later event earlier same
  exact absurd same (by simp)

theorem step_consistent (system : System) (move : Move) (consistent : Consistent system) :
    Consistent (system.step slotCount move) := by
  obtain ⟨exclusive, tracked, shown⟩ := consistent
  apply step_keeps system move
  · intro self call idle
    refine ⟨enter_exclusive exclusive idle call, fun place => enter_tracked (tracked place) idle call, ?_⟩
    change LogShown ((call.event self).toList ++ system.log)
    cases call with
    | abandon slot => exact shown.cons trivial
    | release slot => exact shown.cons trivial
    | reserve | publish | acquire | read | find => exact shown
  · intro self
    refine ⟨take_exclusive exclusive self, take_tracked tracked exclusive self, ?_⟩
    change LogShown (((system.pc self).act slotCount self system.memory).event.toList ++ system.log)
    cases happens : ((system.pc self).act slotCount self system.memory).event with
    | none => exact shown
    | some event => exact shown.cons (take_shown tracked self happens)
  · exact ⟨exclusive, tracked, shown⟩

/-- In every interleaving, what a read returns is one publication of the slot as a whole, with the
generation that was reserved for it; and what a search returns was published with the identity and the
token count it looked for. -/
theorem read_consistent (slotCount : Nat) (moves : List Move) :
    (∀ later self slot view earlier, (run slotCount moves).log = later ++ .viewed self slot view :: earlier →
      Recorded earlier slot view.generation view.published) ∧
    ∀ later self query slot view earlier, (run slotCount moves).log = later ++ .found self query slot view :: earlier →
      Recorded earlier slot view.generation view.published ∧
        view.published.identity = query.identity ∧ view.published.tokenCount = query.tokenCount := by
  have consistent : Consistent (run slotCount moves) := run_keeps step_consistent initial_consistent moves
  constructor
  · exact fun later self slot view earlier same => consistent.shown later _ earlier same
  · exact fun later self query slot view earlier same => consistent.shown later _ earlier same

end Views

end Sparkpipe.KvSharedIndex
