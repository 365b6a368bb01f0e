import LiveTree.Proofs.Conservation

/-!
# Documents that are left to their timers

Most of what happens in an engine has nothing to do with a given document: other documents are edited
and parsed, grammars come in, time passes.  `Spares` says of a move that it leaves a document to its
timer.  Until the timer fires, such moves change neither the document nor its entry nor the time at
which the timer is due.

## Key results

- `Spares.open?`: what a move leaves alone stays open as it is
- `Spares.cases`: the timer fires, or nothing happens to the document
- `DueAt.of_untouched`: time passes for a timer that is left alone
-/

namespace LiveTree.Workspace

/-- The firing of a timer: when it was, how many failed parses were counted in it, and the version of
    the tree that the document has after it. -/
structure Firing where
  time : Nat
  failures : UInt64
  version : Option Int
  deriving DecidableEq, Repr

/-- The firing of the timer of a uri in a move. -/
def firing? (parser : Parser) (w : Workspace) (uri : String) : Move → Option Firing
  | .run task =>
    if task ∈ w.services.alarms uri then
      some
        { time := w.services.clock
          failures := (w.runTask parser task).services.metrics.counters.parseFailures -
            w.services.metrics.counters.parseFailures
          version := ((w.runTask parser task).lastTree? uri).map (·.version) }
    else none
  | _ => none

/-- The firings of the timer of a uri in a sequence of moves. -/
def firings (parser : Parser) (w : Workspace) (uri : String) : List Move → List Firing
  | [] => []
  | move :: rest =>
    (w.firing? parser uri move).toList ++ (w.move parser move).firings parser uri rest

/-- A move leaves the document of a uri to its timer: nothing but the timer reaches the entry, and the
    document is not altered. -/
structure Spares (w : Workspace) (uri : String) (move : Move) : Prop where
  entry : uri ∈ w.touched move →
    ∃ task generation, move = .run task ∧ task.work = .reparse uri generation
  document : ∀ entry, w.entries.find? uri = some entry → ∀ alteration,
    move ≠ .alter entry.document alteration ∧ move ≠ .revise entry.document alteration

/-- Every move leaves the document to its timer. -/
def SparesAlong (parser : Parser) (w : Workspace) (uri : String) : List Move → Prop
  | [] => True
  | move :: rest => w.Spares uri move ∧ (w.move parser move).SparesAlong parser uri rest

/-- Whether a move runs a task that wakes the timer of a uri. -/
def wakesTimer (uri : String) : Move → Bool
  | .run task => task.wakes uri
  | _ => false

/-- Whether a move alters a document. -/
def alters (id : DocumentId) : Move → Bool
  | .alter other _ | .revise other _ => other == id
  | _ => false

/-- Whether a move leaves a document to its timer can be tried out. -/
theorem spares_iff (w : Workspace) (uri : String) (move : Move) : w.Spares uri move ↔
    (uri ∈ w.touched move → wakesTimer uri move = true) ∧
      ((w.entries.find? uri).all fun entry => !alters entry.document move) = true := by
  -- Only a task wakes a timer, and it says which.
  have hwakes : wakesTimer uri move = true ↔
      ∃ task generation, move = .run task ∧ task.work = .reparse uri generation := by
    cases move with
    | run task =>
      rw [wakesTimer, Task.wakes_iff]
      exact ⟨fun ⟨generation, hwork⟩ => ⟨task, generation, rfl, hwork⟩,
        fun ⟨_, generation, heq, hwork⟩ => ⟨generation, by cases heq; exact hwork⟩⟩
    | _ => simp [wakesTimer]
  -- Only an alteration alters a document, and it says which.
  have halters (id : DocumentId) : (!alters id move) = true ↔
      ∀ alteration, move ≠ .alter id alteration ∧ move ≠ .revise id alteration := by
    cases move with
    | alter other alteration => simp [alters]
    | revise other alteration => simp [alters]
    | _ => simp [alters]
  rw [Option.all_eq_true]
  simp only [halters]
  exact ⟨fun h => ⟨fun hmem => hwakes.2 (h.entry hmem), h.document⟩,
    fun h => ⟨fun hmem => hwakes.1 (h.1 hmem), h.2⟩⟩

/-- So it is decidable. -/
instance (w : Workspace) (uri : String) (move : Move) : Decidable (w.Spares uri move) :=
  decidable_of_iff _ (spares_iff w uri move).symm

/-- Whether all moves leave the document alone can be tried out, one after the other. -/
instance SparesAlong.decidable {parser : Parser} {uri : String} :
    (w : Workspace) → (moves : List Move) → Decidable (w.SparesAlong parser uri moves)
  | _, [] => .isTrue trivial
  | w, move :: rest =>
    have := @decidable parser uri (w.move parser move) rest
    inferInstanceAs (Decidable (_ ∧ _))

/-- The timer of a uri fires on time: the clock does not go back, nor does it pass over the deadline of
    the timer, and the timer does not fire before its deadline. -/
def Prompt (w : Workspace) (uri : String) : Move → Prop
  | .aside (.setClock time) => w.services.clock ≤ time ∧
    ∀ task ∈ w.services.alarms uri, time ≤ max w.services.clock task.deadline
  | .run task => task ∈ w.services.alarms uri → task.deadline ≤ w.services.clock
  | _ => True

/-- The timer fires on time in every move. -/
def PromptAlong (parser : Parser) (w : Workspace) (uri : String) : List Move → Prop
  | [] => True
  | move :: rest => w.Prompt uri move ∧ (w.move parser move).PromptAlong parser uri rest

/-- Whether the clock stops at the deadlines of a timer, and the timer keeps them. -/
def keepsDeadlines (w : Workspace) (uri : String) : Move → Bool
  | .aside (.setClock time) => decide (w.services.clock ≤ time) &&
    (w.services.alarms uri).all fun task => decide (time ≤ max w.services.clock task.deadline)
  | .run task =>
    decide (task ∉ w.services.alarms uri) || decide (task.deadline ≤ w.services.clock)
  | _ => true

/-- Whether a timer fires on time can be tried out. -/
theorem prompt_iff (w : Workspace) (uri : String) (move : Move) :
    w.Prompt uri move ↔ w.keepsDeadlines uri move = true := by
  cases move with
  | run task => simp [Prompt, keepsDeadlines, Decidable.imp_iff_not_or]
  | aside aside => cases aside <;> simp [Prompt, keepsDeadlines]
  | _ => simp [Prompt, keepsDeadlines]

/-- So it is decidable. -/
instance (w : Workspace) (uri : String) (move : Move) : Decidable (w.Prompt uri move) :=
  decidable_of_iff _ (prompt_iff w uri move).symm

/-- Whether the timer fires on time in all moves can be tried out, one after the other. -/
instance PromptAlong.decidable {parser : Parser} {uri : String} :
    (w : Workspace) → (moves : List Move) → Decidable (w.PromptAlong parser uri moves)
  | _, [] => .isTrue trivial
  | w, move :: rest =>
    have := @decidable parser uri (w.move parser move) rest
    inferInstanceAs (Decidable (_ ∧ _))

/-- A workspace has a property whenever the timer of a uri fires in a sequence of moves. -/
def WheneverFired (parser : Parser) (w : Workspace) (uri : String) (p : Workspace → Prop) :
    List Move → Prop
  | [] => True
  | move :: rest =>
    ((w.firing? parser uri move).isSome = true → p w) ∧
      (w.move parser move).WheneverFired parser uri p rest

/-- Whether the workspace has the property every time can be tried out, if the property can. -/
instance WheneverFired.decidable {parser : Parser} {uri : String} {p : Workspace → Prop}
    [DecidablePred p] :
    ∀ (w : Workspace) (moves : List Move), Decidable (w.WheneverFired parser uri p moves)
  | _, [] => inferInstanceAs (Decidable True)
  | w, move :: rest =>
    have := @WheneverFired.decidable parser uri p _ (w.move parser move) rest
    inferInstanceAs (Decidable (_ ∧ _))

variable {parser : Parser} {w later : Workspace} {uri : String} {entry : Entry} {doc : Document}
  {time : Nat}

/-- A task of a timer that runs is a firing of it. -/
theorem firing?_run {task : Task} (htask : task ∈ w.services.alarms uri) :
    w.firing? parser uri (.run task) = some
      { time := w.services.clock
        failures := (w.runTask parser task).services.metrics.counters.parseFailures -
          w.services.metrics.counters.parseFailures
        version := ((w.runTask parser task).lastTree? uri).map (·.version) } :=
  if_pos htask

/-- A document that is not revised stays what it is. -/
theorem Run.document_of_unrevised {trace : List Happening} (run : Run parser w trace later)
    {id : DocumentId} (found : w.documents[id]? = some doc)
    (unrevised : ∀ text changes, .revised id text changes ∉ trace) :
    later.documents[id]? = some doc := by
  -- By induction on the run: the document was there before the last step, which has not revised it.
  induction run with
  | nil => exact found
  | snoc _ step ih =>
    have hbefore := ih fun text changes hmem => unrevised text changes (List.mem_append_left _ hmem)
    obtain ⟨next, hnext, rfl | ⟨changes, rfl, -⟩⟩ := step.document hbefore
    · exact hnext
    · exact absurd (List.mem_append_right _ List.mem_cons_self) (unrevised next.text changes)

/-- A document is revised only by a move that alters it. -/
theorem alters_of_revised {move : Move} {id : DocumentId} {text : Text} {changes : List Change}
    (h : .revised id text changes ∈ w.moveDoings move) :
    ∃ alteration, move = .alter id alteration ∨ move = .revise id alteration := by
  -- A report notes itself, and no revision.
  have hreport (w : Workspace) (uri : String) (version : Int) (reported : List Change) :
      .revised id text changes ∉ w.doingsOfReport uri version reported := by
    unfold doingsOfReport
    split <;> simp
  cases move with
  | alter other alteration =>
    change _ ∈ w.doingsOfAlter other alteration at h
    unfold doingsOfAlter at h
    split at h
    · exact nomatch h
    · obtain ⟨rfl, -⟩ := Happening.revised.inj (List.mem_singleton.1 h)
      exact ⟨alteration, .inl rfl⟩
  | revise other alteration =>
    change _ ∈ w.doingsOfRevise other alteration at h
    unfold doingsOfRevise at h
    split at h
    · exact nomatch h
    · rcases List.mem_cons.1 h with heq | hreported
      · obtain ⟨rfl, -⟩ := Happening.revised.inj heq
        exact ⟨alteration, .inr rfl⟩
      · exact absurd hreported (hreport _ _ _ _)
  | openDocument other =>
    have hopen : .revised id text changes ∉ w.doingsOfOpen other := by
      unfold doingsOfOpen
      split <;> simp
    exact absurd h hopen
  | close other =>
    have hclose : .revised id text changes ∉ w.doingsOfClose other := by
      unfold doingsOfClose
      split <;> simp
    exact absurd h hclose
  | report other version reported => exact absurd h (hreport w other version reported)
  | create uri language text => exact nomatch List.mem_singleton.1 h
  | _ => exact nomatch h

/-- What a move leaves alone stays open as it is. -/
theorem Spares.open? {move : Move} (spares : w.Spares uri move)
    (found : w.open? uri = some (entry, doc)) (booked : Booked parser w move)
    (untouched : uri ∉ w.touched move) : (w.move parser move).open? uri = some (entry, doc) := by
  obtain ⟨hentry, hdoc⟩ := open?_eq_some.1 found
  obtain ⟨trace, run, hdoings⟩ := w.move_reaches parser move
  refine open?_eq_some.2 ⟨(booked.spared uri untouched).1.trans hentry, ?_⟩
  refine run.document_of_unrevised hdoc fun text changes hmem => ?_
  -- What revises the document would be an alteration by the host, in this very move.
  have hnoted : .revised entry.document text changes ∈ w.moveDoings move := by
    rw [← hdoings]
    exact List.mem_filter.2 ⟨hmem, rfl⟩
  obtain ⟨alteration, halter | hrevise⟩ := alters_of_revised hnoted
  · exact (spares.document entry hentry alteration).1 halter
  · exact (spares.document entry hentry alteration).2 hrevise

/-! ## When a timer is due -/

/-- The timer of a uri, if it waits, is to fire at a time. -/
def DueAt (w : Workspace) (uri : String) (time : Nat) : Prop :=
  ∀ task ∈ w.services.alarms uri, max w.services.clock task.deadline = time

/-- A timer that waits is not overdue. -/
theorem DueAt.clock_le (h : w.DueAt uri time) {task : Task} (htask : task ∈ w.services.alarms uri) :
    w.services.clock ≤ time := by
  rw [← h task htask]
  exact Nat.le_max_left _ _

/-- Time does not go back. -/
theorem Prompt.clock_le {move : Move} (prompt : w.Prompt uri move) (booked : Booked parser w move) :
    w.services.clock ≤ (w.move parser move).services.clock := by
  -- Only a move of the clock changes the time, and it is not set back.
  by_cases hclock : ∃ time, move = .aside (.setClock time)
  · obtain ⟨now, rfl⟩ := hclock
    exact prompt.1
  · exact Nat.le_of_eq (booked.clock fun now heq => hclock ⟨now, heq⟩).symm

/-- The timer of a uri fires only in moves that touch it. -/
theorem firing?_of_untouched (parser : Parser) {move : Move} (untouched : uri ∉ w.touched move) :
    w.firing? parser uri move = none := by
  cases move with
  | run task =>
    refine if_neg fun hmem => untouched ?_
    obtain ⟨generation, hwork⟩ := Task.wakes_iff.1 (Services.mem_alarms.1 hmem).2
    show uri ∈ [task.work.uri]
    rw [hwork]
    exact List.mem_cons_self
  | _ => rfl

/-- A move that leaves a document to its timer makes the timer fire, or changes nothing, or does not
    touch the document. -/
theorem Spares.cases {move : Move} (spares : w.Spares uri move) (parser : Parser) :
    (∃ task, move = .run task ∧ task ∈ w.services.alarms uri) ∨
      w.firing? parser uri move = none ∧ (w.move parser move = w ∨ uri ∉ w.touched move) := by
  by_cases htouched : uri ∈ w.touched move
  · obtain ⟨task, generation, rfl, hwork⟩ := spares.entry htouched
    by_cases hqueued : task ∈ w.services.tasks
    · exact .inl ⟨task, rfl, Services.mem_alarms.2 ⟨hqueued, Task.wakes_iff.2 ⟨generation, hwork⟩⟩⟩
    · -- A task that is not queued does not run.
      exact .inr ⟨if_neg fun halarm => hqueued (Services.mem_alarms.1 halarm).1,
        .inl (if_neg hqueued)⟩
  · exact .inr ⟨firing?_of_untouched parser htouched, .inr htouched⟩

/-- Time passes for a timer that is left alone. -/
theorem DueAt.of_untouched (h : w.DueAt uri time) {move : Move} (booked : Booked parser w move)
    (untouched : uri ∉ w.touched move) (prompt : w.Prompt uri move) :
    (w.move parser move).DueAt uri time := by
  intro task htask
  rw [(booked.spared uri untouched).2] at htask
  have hdue := h task htask
  -- The clock may move up to the deadline, and stays within it otherwise.
  by_cases hclock : ∃ time, move = .aside (.setClock time)
  · obtain ⟨now, rfl⟩ := hclock
    obtain ⟨hforth, hbefore⟩ := prompt
    have hnow := hbefore task htask
    show max now task.deadline = time
    omega
  · rw [booked.clock fun now heq => hclock ⟨now, heq⟩]
    exact hdue

end LiveTree.Workspace
