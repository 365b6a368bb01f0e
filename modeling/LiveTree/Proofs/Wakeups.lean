import LiveTree.Proofs.Generations

/-!
# Timers that have woken up

A task that is to wake a timer can be dropped only while it is queued.  Once it has woken up it is a
message under way, which nothing can take back: it may arrive at any later time, when its timer has been
set anew or cancelled, and when its document has been closed or opened again.  Whether it counts is
decided by its generation alone.

Within the life of one entry that is enough.  Generations only grow, so a message counts exactly if the
timer was last set for its sender and has not been cancelled since.  A new entry, however, starts again
at generation zero, and a message that was sent for an entry before it can carry the generation that the
new one has come to.

## Key results

- `Watch.Orderly.step`: whatever happens, messages have senders of their own, and those of the entry
  that is open tell the last setting of its timer from all earlier ones
- `Watch.own_wakeups_told_apart`: a message of the entry that is open counts exactly if it should
- `Watch.stray_wakeup_claimed`: a message of an entry that was replaced may count as well
-/

namespace LiveTree

/-- A workspace, the messages to its timers that are under way, and what an onlooker remembers. -/
structure Watch where
  workspace : Workspace
  woken : List Wakeup := []
  /-- The senders of the messages that have counted. -/
  claimed : List TaskId := []
  /-- The name that was next to be given to a task when a uri was last opened: the messages of earlier
      tasks are not for the entry that is open now. -/
  opened : String → TaskId := fun _ => 0
  /-- The task for which the timer of a uri was last set, unless it has been cancelled since. -/
  standing : String → Option TaskId := fun _ => none

/-- What may happen in a workspace whose tasks can no longer be stopped once they have woken up. -/
inductive Incident where
  /-- Any move in which no timer fires. -/
  | move (move : Move)
  /-- A queued task that is to wake a timer wakes up. -/
  | wakes (task : Task)
  /-- A message that is under way arrives. -/
  | arrives (wakeup : Wakeup)

namespace Watch

/-- A watch over an empty workspace. -/
def start (config : Config) (dataHome : String) (libraries : Libraries) (runtime : Bool) : Watch where
  workspace := .create config dataHome libraries runtime

/-- Takes note of what has become of the workspace.  A timer has been set if it waits for a task that
    is new.  Otherwise the setting before still stands, unless the timer is the one that has been
    cancelled. -/
def observe (watch : Watch) (later : Workspace) (opens cancels : Option String) : Watch :=
  { watch with
    workspace := later
    opened := fun uri =>
      if opens = some uri then watch.workspace.services.nextTask else watch.opened uri
    standing := fun uri =>
      match (later.timer uri).handle.filter (watch.workspace.services.nextTask ≤ ·) with
      | some id => some id
      | none => if cancels = some uri then none else watch.standing uri }

/-- A queued task wakes up: it can no longer be dropped, and its message is under way. -/
def depart (watch : Watch) (task : Task) (wakeup : Wakeup) : Watch :=
  { watch with
    workspace := { watch.workspace with services := watch.workspace.services.abort task.id }
    woken := wakeup :: watch.woken }

/-- A message has arrived, and has counted or not. -/
def land (watch : Watch) (wakeup : Wakeup) (counts : Bool) : Watch :=
  { watch with
    woken := watch.woken.erase wakeup
    claimed := if counts then wakeup.sender :: watch.claimed else watch.claimed }

/-- What an incident makes of a watch. -/
def step (parser : Parser) (watch : Watch) : Incident → Watch
  | .move move =>
    -- Here a timer fires by the message of its task, and in no other way.
    if move.firesTimer then watch
    else watch.observe (watch.workspace.move parser move) (watch.workspace.opens? move)
      (watch.workspace.cancels? move)
  | .wakes task =>
    match task.wakeup? with
    | none => watch
    | some wakeup =>
      if task ∈ watch.workspace.services.tasks then watch.depart task wakeup else watch
  | .arrives wakeup =>
    if wakeup ∈ watch.woken then
      -- What counts is no longer waited for, but a setting that has had its effect still stands.
      (watch.observe (watch.workspace.timerFired parser wakeup.uri wakeup.generation) none none).land
        wakeup (watch.workspace.claims wakeup.uri wakeup.generation)
    else watch

/-- What a sequence of incidents makes of a watch. -/
def follow (parser : Parser) (watch : Watch) (incidents : List Incident) : Watch :=
  incidents.foldl (step parser) watch

variable {parser : Parser} {watch : Watch} {later : Workspace} {uri : String}
variable {opens cancels : Option String}

/-- A timer that has been set stands for the task it waits for. -/
theorem standing_of_new {id : TaskId} (handle : (later.timer uri).handle = some id)
    (new : watch.workspace.services.nextTask ≤ id) :
    (watch.observe later opens cancels).standing uri = some id := by
  unfold observe
  dsimp only
  rw [handle, Option.filter_some, if_pos (decide_eq_true new)]

/-- A timer that has not been set stands as it did before, unless it has been cancelled. -/
theorem standing_of_not_new
    (old : ∀ id, (later.timer uri).handle = some id → id < watch.workspace.services.nextTask) :
    (watch.observe later opens cancels).standing uri =
      if cancels = some uri then none else watch.standing uri := by
  have hnone : (later.timer uri).handle.filter (watch.workspace.services.nextTask ≤ ·) = none :=
    Option.filter_eq_none_iff.2 fun id hid hnew =>
      Nat.not_le_of_lt (old id hid) (of_decide_eq_true hnew)
  unfold observe
  dsimp only
  rw [hnone]

/-! ## Senders -/

/-- The senders of all messages that are under way or have counted. -/
def senders (watch : Watch) : List TaskId := watch.woken.map (·.sender) ++ watch.claimed

/-- Every message has a sender of its own, and no sender has more to say. -/
structure Named (watch : Watch) : Prop where
  queued : watch.workspace.services.Queued
  given : ∀ id ∈ watch.senders, id < watch.workspace.services.nextTask
  apart : ∀ wakeup ∈ watch.workspace.services.wakeups, wakeup.sender ∉ watch.senders
  once : watch.senders.Nodup

/-- What the tasks do lets messages keep their senders: a new message has a new name. -/
theorem Named.observe (named : watch.Named)
    (grows : watch.workspace.services.Grows later.services) (opens cancels : Option String) :
    (watch.observe later opens cancels).Named where
  queued := grows.queued named.queued
  given id hid := Nat.lt_of_lt_of_le (named.given id hid) grows.issued
  apart wakeup hwakeup hid := by
    -- A message that was to be sent before has its old name, and a new one has a name not yet
    -- given.
    rcases grows.wakeups wakeup hwakeup with hold | hnew
    · exact named.apart wakeup hold hid
    · exact Nat.lt_irrefl _ (Nat.lt_of_lt_of_le (named.given _ hid) hnew)
  once := named.once

/-- A task that has woken up can no longer be asked to, so its message is the only one of its
    sender. -/
theorem Named.depart (named : watch.Named) {task : Task} {wakeup : Wakeup}
    (queued : task ∈ watch.workspace.services.tasks) (spoken : task.wakeup? = some wakeup) :
    (watch.depart task wakeup).Named where
  queued := named.queued.abort task.id
  given := by
    refine List.forall_mem_cons.2 ⟨?_, named.given⟩
    exact named.queued.sender_lt (Services.mem_wakeups.2 ⟨task, queued, spoken⟩)
  apart other hother hid := by
    -- The other message is still to be sent, so its sender is not the one that has been dropped.
    have hne := Services.sender_ne_of_abort hother
    rw [← Task.sender_of_wakeup? spoken] at hne
    rcases List.mem_cons.1 hid with heq | hmem
    · exact hne heq
    · exact named.apart other (Services.wakeups_abort_subset _ _ hother) hmem
  once := List.nodup_cons.2
    ⟨named.apart wakeup (Services.mem_wakeups.2 ⟨task, queued, spoken⟩), named.once⟩

/-- A message that has arrived is no longer under way, whether or not it has counted. -/
theorem Named.land (named : watch.Named) {wakeup : Wakeup} (under : wakeup ∈ watch.woken)
    (counts : Bool) : (watch.land wakeup counts).Named := by
  have hperm : watch.senders.Perm
      (wakeup.sender :: ((watch.woken.erase wakeup).map (·.sender) ++ watch.claimed)) :=
    ((List.perm_cons_erase under).map Wakeup.sender).append_right watch.claimed
  have hperm' : watch.senders.Perm
      ((watch.woken.erase wakeup).map (·.sender) ++ wakeup.sender :: watch.claimed) :=
    hperm.trans List.perm_middle.symm
  -- What is left of the senders is a part of what there was.
  obtain ⟨rest, hrest⟩ : ∃ rest, watch.senders.Perm (rest ++ (watch.land wakeup counts).senders) := by
    cases counts with
    | true => exact ⟨[], hperm'⟩
    | false => exact ⟨[wakeup.sender], hperm⟩
  exact
    { queued := named.queued
      given := fun id hid => named.given id (hrest.mem_iff.2 (List.mem_append_right rest hid))
      apart := fun other hother hid =>
        named.apart other hother (hrest.mem_iff.2 (List.mem_append_right rest hid))
      once := (List.nodup_append.1 (hrest.nodup_iff.1 named.once)).2.1 }

/-! ## Telling messages apart -/

/-- Of the messages for the timer of a uri, under way or still to be sent, those for the entry that is
    open are of no later generation than the timer, and the one that stands is the one of the same
    generation. -/
def TellsApart (watch : Watch) (uri : String) (timer : Timer) : Prop :=
  ∀ wakeup, wakeup ∈ watch.workspace.services.wakeups ∨ wakeup ∈ watch.woken →
    wakeup.uri = uri → watch.opened uri ≤ wakeup.sender →
      wakeup.generation ≤ timer.generation ∧
        (wakeup.generation = timer.generation ↔ watch.standing uri = some wakeup.sender)

/-- All senders of messages have been named. -/
theorem Named.sender_lt (named : watch.Named) {wakeup : Wakeup}
    (h : wakeup ∈ watch.workspace.services.wakeups ∨ wakeup ∈ watch.woken) :
    wakeup.sender < watch.workspace.services.nextTask := by
  rcases h with hqueued | hwoken
  · exact named.queued.sender_lt hqueued
  · exact named.given _ (List.mem_append_left _ (List.mem_map.2 ⟨wakeup, hwoken, rfl⟩))

/-- On an entry that stays open, either the generation is the same and what stood before stands, or the
    generation is new and what stands is what the timer has come to wait for. -/
theorem standing_cases {next : Entry} {timer : Timer}
    (found : later.entries.find? uri = some next)
    (issued : ∀ id, timer.handle = some id → id < watch.workspace.services.nextTask)
    (ages : watch.workspace.services.Ages uri timer later.services next.timer)
    (drops : cancels = some uri → timer.generation < next.timer.generation)
    (unset : next.timer.handle = none → timer.generation < next.timer.generation →
      cancels = some uri) :
    timer.generation = next.timer.generation ∧
        (watch.observe later opens cancels).standing uri = watch.standing uri ∨
      timer.generation < next.timer.generation ∧
        (watch.observe later opens cancels).standing uri = next.timer.handle := by
  have htimer := Workspace.timer_of_find? (w := later) found
  rcases Nat.lt_or_eq_of_le ages.generation with hgrown | hsame
  · refine .inr ⟨hgrown, ?_⟩
    -- In a new generation the timer waits for something new, or it has been cancelled.
    cases hhandle : next.timer.handle with
    | some id =>
      obtain ⟨hnew, -⟩ := ages.fresh hgrown id hhandle
      exact standing_of_new (by rw [htimer, hhandle]) hnew
    | none =>
      rw [standing_of_not_new fun id hid => ?_, if_pos (unset hhandle hgrown)]
      rw [htimer, hhandle] at hid
      exact nomatch hid
  · refine .inl ⟨hsame, ?_⟩
    -- What the timer still waits for is no new setting, and it has not been cancelled.
    rw [standing_of_not_new fun id hid => ?_, if_neg fun heq => ?_]
    · exact Nat.lt_irrefl _ (Nat.lt_of_lt_of_eq (drops heq) hsame.symm)
    · rw [htimer, ages.idle hsame.symm] at hid
      exact issued id hid

/-- An operation on an entry that stays open: in a new generation the messages for it are earlier than
    what the timer waits for, and without one nothing changes. -/
theorem TellsApart.observe {entry next : Entry} (tells : watch.TellsApart uri entry.timer)
    (named : watch.Named) {timer : Timer} (same : timer.generation = entry.timer.generation)
    (ages : watch.workspace.services.Ages uri timer later.services next.timer)
    (stays : opens ≠ some uri)
    (stands : timer.generation = next.timer.generation ∧
        (watch.observe later opens cancels).standing uri = watch.standing uri ∨
      timer.generation < next.timer.generation ∧
        (watch.observe later opens cancels).standing uri = next.timer.handle) :
    (watch.observe later opens cancels).TellsApart uri next.timer := by
  have hopened : (watch.observe later opens cancels).opened uri = watch.opened uri := if_neg stays
  intro wakeup hwakeup huri hown
  rw [hopened] at hown
  have hfrom : (wakeup ∈ watch.workspace.services.wakeups ∨ wakeup ∈ watch.woken) ∨
      Services.SetAnew watch.workspace.services timer later.services next.timer wakeup := by
    -- The message is as old as the workspace before, or it came of a new setting.
    rcases hwakeup with hqueued | hwoken
    · exact (ages.wakeups wakeup hqueued huri).imp_left .inl
    · exact .inl (.inr hwoken)
  rcases hfrom with hold | hnew
  · obtain ⟨hle, hcurrent⟩ := tells wakeup hold huri hown
    rw [← same] at hle hcurrent
    rcases stands with ⟨hsame, hstanding⟩ | ⟨hgrown, hstanding⟩
    · rw [hstanding, ← hsame]
      exact ⟨hle, hcurrent⟩
    · rw [hstanding]
      refine ⟨Nat.le_trans hle ages.generation,
        iff_of_false (Nat.ne_of_lt (Nat.lt_of_le_of_lt hle hgrown)) fun hid => ?_⟩
      obtain ⟨hnew, -⟩ := ages.fresh hgrown _ hid
      exact Nat.lt_irrefl _ (Nat.lt_of_lt_of_le (named.sender_lt hold) hnew)
  · -- A new message is for a new generation.
    rcases stands with ⟨hsame, -⟩ | ⟨-, hstanding⟩
    · exact absurd (Nat.lt_of_lt_of_le hnew.newer hnew.reached) (Nat.not_lt.2 (Nat.le_of_eq hsame.symm))
    · rw [hstanding]
      exact ⟨hnew.reached, hnew.awaited⟩

/-- An entry that has just been opened: all earlier messages are for other entries. -/
theorem tellsApart_of_opened (named : watch.Named) {next : Entry}
    (found : later.entries.find? uri = some next)
    (ages : watch.workspace.services.Ages uri {} later.services next.timer) :
    (watch.observe later (some uri) (some uri)).TellsApart uri next.timer := by
  have hopened : (watch.observe later (some uri) (some uri)).opened uri =
      watch.workspace.services.nextTask := if_pos rfl
  have hstanding : (watch.observe later (some uri) (some uri)).standing uri = next.timer.handle := by
    have htimer := Workspace.timer_of_find? (w := later) found
    cases hhandle : next.timer.handle with
    | none =>
      rw [standing_of_not_new fun id hid => ?_, if_pos rfl]
      rw [htimer, hhandle] at hid
      exact nomatch hid
    | some id =>
      refine standing_of_new (by rw [htimer, hhandle]) ?_
      -- It waits for something, so it has been set since it was opened.
      rcases Nat.lt_or_eq_of_le ages.generation with hgrown | hsame
      · exact (ages.fresh hgrown id hhandle).1
      · exact nomatch (ages.idle hsame.symm).symm.trans hhandle
  intro wakeup hwakeup huri hown
  rw [hopened] at hown
  rw [hstanding]
  have hearlier (h : wakeup ∈ watch.workspace.services.wakeups ∨ wakeup ∈ watch.woken) : False :=
    Nat.lt_irrefl _ (Nat.lt_of_lt_of_le (named.sender_lt h) hown)
  rcases hwakeup with hqueued | hwoken
  · rcases ages.wakeups wakeup hqueued huri with hold | hnew
    · exact absurd (.inl hold) hearlier
    · exact ⟨hnew.reached, hnew.awaited⟩
  · exact absurd (.inr hwoken) hearlier

/-! ## Incidents -/

/-- What all incidents keep. -/
structure Orderly (watch : Watch) : Prop where
  sound : watch.workspace.services.registry.Sound
  coherent : watch.workspace.AllCoherent
  named : watch.Named
  issued : ∀ uri id, (watch.workspace.timer uri).handle = some id →
    id < watch.workspace.services.nextTask
  closed : ∀ uri, watch.workspace.entries.find? uri = none → watch.standing uri = none
  tells : ∀ uri entry, watch.workspace.entries.find? uri = some entry →
    watch.TellsApart uri entry.timer

/-- Nothing has been sent and nothing set in an empty workspace. -/
theorem start_orderly (config : Config) (dataHome : String) (libraries : Libraries)
    (runtime : Bool) : (start config dataHome libraries runtime).Orderly where
  sound := Registry.ofConfig_sound config dataHome
  coherent _ _ found := nomatch found
  named :=
    { queued := ⟨fun _ hmem => (nomatch hmem), fun _ hmem => (nomatch hmem)⟩
      given := fun _ hid => nomatch hid
      apart := fun _ hwakeup => nomatch hwakeup
      once := List.nodup_nil }
  issued _ _ hid := nomatch hid
  closed _ _ := rfl
  tells _ _ found := nomatch found

/-- What happens to the workspace leaves the messages in order, if it carries every entry that stays
    open and cancels the timer of one that is opened. -/
theorem Orderly.observe (orderly : watch.Orderly) {doings : List Happening}
    (reaches : Workspace.Reaches parser watch.workspace doings later)
    (grows : watch.workspace.services.Grows later.services)
    (carries : ∀ uri, opens ≠ some uri → watch.workspace.Carries cancels later uri)
    (opened : ∀ uri, opens = some uri → cancels = some uri ∧
      watch.workspace.services.Ages uri {} later.services (later.timer uri)) :
    (watch.observe later opens cancels).Orderly := by
  obtain ⟨trace, run, -⟩ := reaches
  obtain ⟨hsound, hcoherent⟩ :=
    run.maintains (Entry.Coherent.kept parser) orderly.sound orderly.coherent
  refine ⟨hsound, hcoherent, orderly.named.observe grows opens cancels, fun uri id hid => ?_,
    fun uri hclosed => ?_, fun uri next hnext => ?_⟩
  · by_cases hopens : opens = some uri
    · exact (opened uri hopens).2.given (fun _ hnone => nomatch hnone) hid
    · cases hnext : later.entries.find? uri with
      | none =>
        have hid : (later.timer uri).handle = some id := hid
        rw [Workspace.timer_of_closed hnext] at hid
        exact nomatch hid
      | some next =>
        -- The entry was open before, so what its timer waited for had been named.
        obtain ⟨entry, hentry, timer, -, hwaits, hages, -⟩ := (carries uri hopens).kept next hnext
        have hissued := orderly.issued uri
        rw [Workspace.timer_of_find? hentry] at hissued
        have hid : (later.timer uri).handle = some id := hid
        rw [Workspace.timer_of_find? hnext] at hid
        exact hages.given (fun id hid => hissued id (hwaits id hid)) hid
  · have hclosed : later.entries.find? uri = none := hclosed
    rw [standing_of_not_new fun id hid => ?_]
    · split
      · rfl
      · next hother =>
        -- It was closed before, or it has been closed, and that cancels its timer.
        have hopens : opens ≠ some uri := fun heq => hother (opened uri heq).1
        rcases (carries uri hopens).closed hclosed with hbefore | hcancelled
        · exact orderly.closed uri hbefore
        · exact absurd hcancelled hother
    · rw [Workspace.timer_of_closed hclosed] at hid
      exact nomatch hid
  · -- What is open now has just been opened, or was open before.
    by_cases hopens : opens = some uri
    · obtain ⟨hcancels, hages⟩ := opened uri hopens
      subst hopens hcancels
      rw [Workspace.timer_of_find? (w := later) hnext] at hages
      exact tellsApart_of_opened orderly.named hnext hages
    · obtain ⟨entry, hentry, timer, hsame, hwaits, hages, hdrops, hunset⟩ :=
        (carries uri hopens).kept next hnext
      have hissued := orderly.issued uri
      rw [Workspace.timer_of_find? hentry] at hissued
      exact (orderly.tells uri entry hentry).observe orderly.named hsame hages hopens
        (standing_cases hnext (fun id hid => hissued id (hwaits id hid)) hages hdrops hunset)

/-- Something happens in which nothing is opened. -/
theorem Orderly.observe_none (orderly : watch.Orderly) {doings : List Happening}
    (reaches : Workspace.Reaches parser watch.workspace doings later)
    (grows : watch.workspace.services.Grows later.services)
    (carries : ∀ uri, watch.workspace.Carries cancels later uri) :
    (watch.observe later none cancels).Orderly :=
  orderly.observe reaches grows (fun uri _ => carries uri) fun _ heq => nomatch heq

/-- To open a document leaves the messages in order, also when the uri was open before. -/
theorem Orderly.openDocument (orderly : watch.Orderly) (parser : Parser) (id : DocumentId) :
    (watch.observe (watch.workspace.move parser (.openDocument id))
      (watch.workspace.opens? (.openDocument id))
      (watch.workspace.cancels? (.openDocument id))).Orderly := by
  have hreaches := watch.workspace.move_reaches parser (.openDocument id)
  show (watch.observe (watch.workspace.openDocument id)
    ((watch.workspace.documents[id]?).map (·.uri))
    ((watch.workspace.documents[id]?).map (·.uri))).Orderly
  cases hdoc : watch.workspace.documents[id]? with
  | none =>
    have hages : watch.workspace.Ages none (watch.workspace.openDocument id) := by
      unfold Workspace.openDocument
      rw [hdoc]
      exact .refl watch.workspace
    exact orderly.observe_none hreaches hages.grows hages.carries
  | some doc =>
    obtain ⟨hgrows, hages, hcarries⟩ := watch.workspace.openDocument_carries hdoc
    refine orderly.observe hreaches hgrows (fun uri hne => hcarries uri ?_) fun uri heq => ?_
    · exact fun heq => hne (by rw [heq]; rfl)
    · obtain rfl := Option.some.inj heq
      exact ⟨rfl, hages⟩

/-- So does every move in which no timer fires. -/
theorem Orderly.move (orderly : watch.Orderly) (parser : Parser) {move : Move}
    (hfires : move.firesTimer = false) :
    (watch.observe (watch.workspace.move parser move) (watch.workspace.opens? move)
      (watch.workspace.cancels? move)).Orderly := by
  have hreaches := watch.workspace.move_reaches parser move
  -- An entry may be new, or gone, or else its timer is that of before, as the entry came to have
  -- it.
  by_cases hopens : ∃ id, move = .openDocument id
  · obtain ⟨id, rfl⟩ := hopens
    exact orderly.openDocument parser id
  · have hnone : watch.workspace.opens? move = none := by
      cases move with
      | openDocument id => exact absurd ⟨id, rfl⟩ hopens
      | _ => rfl
    rw [hnone]
    by_cases hcloses : ∃ uri, move = .close uri
    · obtain ⟨uri, rfl⟩ := hcloses
      obtain ⟨hgrows, hcarries⟩ := watch.workspace.close_carries uri
      exact orderly.observe_none hreaches hgrows hcarries
    · have hages := Workspace.move_ages orderly.coherent parser hfires
        (fun id heq => hopens ⟨id, heq⟩) fun uri heq => hcloses ⟨uri, heq⟩
      exact orderly.observe_none hreaches hages.grows hages.carries

/-- A task that wakes up leaves the messages in order. -/
theorem Orderly.depart (orderly : watch.Orderly) {task : Task} {wakeup : Wakeup}
    (queued : task ∈ watch.workspace.services.tasks) (spoken : task.wakeup? = some wakeup) :
    (watch.depart task wakeup).Orderly where
  sound := orderly.sound
  coherent := orderly.coherent
  named := orderly.named.depart queued spoken
  issued := orderly.issued
  closed := orderly.closed
  tells uri entry found other hother := by
    -- A message that gets under way was to be sent before.
    refine orderly.tells uri entry found other ?_
    rcases hother with hqueued | hwoken
    · exact .inl (Services.wakeups_abort_subset _ _ hqueued)
    · rcases List.mem_cons.1 hwoken with rfl | hwoken
      · exact .inl (Services.mem_wakeups.2 ⟨task, queued, spoken⟩)
      · exact .inr hwoken

/-- So does a message that has arrived. -/
theorem Orderly.land (orderly : watch.Orderly) {wakeup : Wakeup} (under : wakeup ∈ watch.woken)
    (counts : Bool) : (watch.land wakeup counts).Orderly where
  sound := orderly.sound
  coherent := orderly.coherent
  named := orderly.named.land under counts
  issued := orderly.issued
  closed := orderly.closed
  tells uri entry found other hother :=
    orderly.tells uri entry found other (hother.imp_right List.mem_of_mem_erase)

/-- And so does whatever a timer that fires does to its entry. -/
theorem Orderly.fire (orderly : watch.Orderly) (parser : Parser) (uri : String)
    (generation : Nat) :
    (watch.observe (watch.workspace.timerFired parser uri generation) none none).Orderly := by
  obtain ⟨hgrows, hcarries⟩ :=
    Workspace.timerFired_carries orderly.coherent parser uri generation
  exact orderly.observe_none (watch.workspace.timerFired_reaches parser uri generation) hgrows
    hcarries

/-- Every incident leaves the messages in order. -/
theorem Orderly.step (orderly : watch.Orderly) (parser : Parser) (incident : Incident) :
    (watch.step parser incident).Orderly := by
  unfold Watch.step
  split
  · next move =>
    split
    · exact orderly
    · next hfires => exact orderly.move parser (Bool.eq_false_iff.2 hfires)
  · next task =>
    split
    · exact orderly
    · next wakeup spoken =>
      split
      · next queued => exact orderly.depart queued spoken
      · exact orderly
  · next wakeup =>
    -- The timer is told first, and then the message is no longer under way.
    split
    · next under => exact (orderly.fire parser wakeup.uri wakeup.generation).land under _
    · exact orderly

/-- Every sequence of incidents leaves the messages in order. -/
theorem Orderly.follow (orderly : watch.Orderly) (parser : Parser) (incidents : List Incident) :
    (watch.follow parser incidents).Orderly := by
  -- By induction on the incidents, with the watch free.
  induction incidents generalizing watch with
  | nil => exact orderly
  | cons incident rest ih => exact ih (orderly.step parser incident)

/-- A message for the entry that is open counts exactly if its sender stands. -/
theorem Orderly.claims_iff (orderly : watch.Orderly) {wakeup : Wakeup}
    (under : wakeup ∈ watch.woken) (own : watch.opened wakeup.uri ≤ wakeup.sender) :
    watch.workspace.claims wakeup.uri wakeup.generation = true ↔
      watch.standing wakeup.uri = some wakeup.sender := by
  cases hfound : watch.workspace.entries.find? wakeup.uri with
  | none =>
    have hopen : watch.workspace.open? wakeup.uri = none := by
      unfold Workspace.open?
      rw [hfound]
      rfl
    unfold Workspace.claims
    rw [hopen, orderly.closed _ hfound]
    exact iff_of_false Bool.false_ne_true (fun heq => nomatch heq)
  | some entry =>
    obtain ⟨doc, hdoc, -⟩ := orderly.coherent _ _ hfound
    obtain ⟨-, hcurrent⟩ := orderly.tells _ _ hfound wakeup (.inr under) rfl own
    -- What counts is a matter of the generation, and that tells who stands.
    rw [Workspace.claims_iff (Workspace.open?_eq_some.2 ⟨hfound, hdoc⟩), ← hcurrent]
    exact eq_comm

/-- Let anything happen to an empty workspace, with tasks that wake up at any time and messages that
    arrive at any time after.  Then

    - no task has had a timer fire more than once;
    - a message that does not count changes nothing when it arrives;
    - a message for the entry that is open counts when it arrives exactly if the timer was last set for
      its sender and has not been cancelled since. -/
theorem own_wakeups_told_apart (parser : Parser) (config : Config) (dataHome : String)
    (libraries : Libraries) (runtime : Bool) (incidents : List Incident) :
    let watch := (start config dataHome libraries runtime).follow parser incidents
    watch.claimed.Nodup ∧
      ∀ wakeup ∈ watch.woken,
        let w := watch.workspace
        let fired := w.timerFired parser wakeup.uri wakeup.generation
        (w.claims wakeup.uri wakeup.generation = false →
          fired.documents = w.documents ∧ fired.services = w.services ∧
            ∀ uri, fired.entries.find? uri = w.entries.find? uri) ∧
        (watch.opened wakeup.uri ≤ wakeup.sender →
          (w.claims wakeup.uri wakeup.generation = true ↔
            watch.standing wakeup.uri = some wakeup.sender)) := by
  intro watch
  have horderly : watch.Orderly :=
    (start_orderly config dataHome libraries runtime).follow parser incidents
  refine ⟨(List.nodup_append.1 horderly.named.once).2.1, fun wakeup under => ⟨?_, ?_⟩⟩
  · intro hclaims
    exact Workspace.timerFired_of_not_claims hclaims parser
  · exact horderly.claims_iff under

/-- A document is opened, and the task of its timer wakes up; then the timer is set again, and that task
    wakes up, too. -/
def overtaken : List Incident := [
  .move (.create "file:///a.js" "javascript" ['a', ';']),
  .move (.openDocument 0),
  .wakes ⟨0, 0, .reparse "file:///a.js" 2⟩,
  .move (.scheduleReparse "file:///a.js"),
  .wakes ⟨1, 1000, .reparse "file:///a.js" 4⟩]

/-- Of two messages under way the earlier one does not count, and the later one does. -/
theorem own_wakeups_told_apart_overtaken :
    let watch := (start {} "/home" {} true).follow (.ofRecordings [] none) overtaken
    watch.woken = [⟨1, "file:///a.js", 4⟩, ⟨0, "file:///a.js", 2⟩] ∧
      watch.workspace.claims "file:///a.js" 2 = false ∧
      watch.workspace.claims "file:///a.js" 4 = true ∧
      (watch.workspace.timerFired (.ofRecordings [] none) "file:///a.js" 2).services =
        watch.workspace.services := by
  have hwoken : ((start {} "/home" {} true).follow (.ofRecordings [] none) overtaken).woken =
      [⟨1, "file:///a.js", 4⟩, ⟨0, "file:///a.js", 2⟩] := by decide +kernel
  obtain ⟨-, htold⟩ :=
    own_wakeups_told_apart (.ofRecordings [] none) {} "/home" {} true overtaken
  obtain ⟨-, hlater⟩ := htold ⟨1, "file:///a.js", 4⟩ (by rw [hwoken]; decide)
  obtain ⟨hnothing, hearlier⟩ := htold ⟨0, "file:///a.js", 2⟩ (by rw [hwoken]; decide)
  -- The earlier message does not stand, so it does not count and changes nothing.
  have hdiscarded := Bool.eq_false_iff.2 (mt (hearlier (by decide +kernel)).1 (by decide +kernel))
  exact ⟨hwoken, hdiscarded, (hlater (by decide +kernel)).2 (by decide +kernel),
    (hnothing hdiscarded).2.1⟩

/-- A document is opened, the task of its timer wakes up, and the document is opened again. -/
def reopened : List Incident := [
  .move (.create "file:///a.js" "javascript" ['a', ';']),
  .move (.openDocument 0),
  .wakes ⟨0, 0, .reparse "file:///a.js" 2⟩,
  .move (.openDocument 0)]

/-- The message that is under way was sent for the entry that has been replaced, whose timer was
    cancelled then, and yet it counts: the new timer is in the same generation.  When the task of the
    new timer has woken up, too, a timer that was set once has fired twice. -/
theorem stray_wakeup_claimed :
    let watch := (start {} "/home" {} true).follow (.ofRecordings [] none) reopened
    let after := watch.follow (.ofRecordings [] none) [
      .arrives ⟨0, "file:///a.js", 2⟩,
      .wakes ⟨1, 0, .reparse "file:///a.js" 2⟩,
      .arrives ⟨1, "file:///a.js", 2⟩]
    watch.woken = [⟨0, "file:///a.js", 2⟩] ∧ watch.standing "file:///a.js" = some 1 ∧
      watch.workspace.claims "file:///a.js" 2 = true ∧
      after.claimed = [1, 0] ∧ after.workspace.services.metrics.counters.scheduledFires = 2 := by
  decide +kernel

end Watch

end LiveTree
