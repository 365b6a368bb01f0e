import LiveTree.Parser.Recorded
import LiveTree.Pool
import Mathlib.Data.List.Induction
import Mathlib.Data.List.Perm.Basic
import Mathlib.Order.Bounds.Basic

/-!
# No parser is lost

A `Pool` only counts.  What it counts are single parsers: each of them is idle, or some user of the
pool holds it, or a parse works with it, and a `Roster` says which.  Users take parsers and return
them, and any number of parses may be running meanwhile, so a parse is told by its start and its end.

Whatever happens, each parser that was made is in one place, and no more of them were made than were
checked out at some moment.

## Key results

- `Roster.Moves`: what an event can do to the parsers, and `Roster.moves`: it does nothing else
- `Roster.Moves.placed`, `Roster.Moves.made_eq_max`: what an event keeps
- `Roster.parse_eq`: a parser goes back however its parse ends
- `Roster.every_parser_accounted_for`: where the parsers are, and how many were made
-/

namespace LiveTree

/-- Where the parsers of a pool are; a parser is told by how many were made before it.  Of the idle
    ones the last one returned comes first, and of all others the last one taken. -/
structure Roster where
  made : Nat := 0
  idle : List Nat := []
  held : List Nat := []
  working : List Nat := []
  deriving DecidableEq, Repr

namespace Roster

/-- The counts of a roster. -/
def pool (r : Roster) : Pool := ⟨r.made, r.idle.length⟩

/-- The parsers that are checked out. -/
def out (r : Roster) : List Nat := r.working ++ r.held

/-- Takes the parser that was returned last, or makes one. -/
def checkOut (r : Roster) : Nat × Roster :=
  match r.idle with
  | [] => (r.made, { r with made := r.made + 1 })
  | parser :: rest => (parser, { r with idle := rest })

/-- Puts a parser back. -/
def checkIn (r : Roster) (parser : Nat) : Roster := { r with idle := parser :: r.idle }

/-- Parses a text with a parser of the pool.  It has three ways out, each with the parser put back. -/
def parse (r : Roster) (parser : Parser) (grammar : Grammar) (text : Text)
    (previous : Option PreviousTree) (limit : Nat) : Roster × Except ParseFailure ParseTree :=
  let (taken, rest) := r.checkOut
  match grammar.rejection with
  | some reason => (rest.checkIn taken, .error (.rejected (.incompatible grammar.language reason)))
  | none =>
    match parser grammar.language text previous limit with
    | some tree => (rest.checkIn taken, .ok tree)
    | none => (rest.checkIn taken, .error (.timedOut limit))

/-- What happens at a pool: a user takes a parser, or returns the one at a place among those that are
    held; a parse starts, or the one at a place among those that are running comes to its end. -/
inductive Event where
  | acquire
  | release (place : Nat)
  | start
  | finish (place : Nat)
  deriving DecidableEq, Repr

/-- An event in counts. -/
def Event.count : Event → Pool → Pool
  | .acquire | .start => Pool.acquire
  | .release _ | .finish _ => Pool.release

/-- What an event makes of a roster; `none` when there is no such parser to put back. -/
def step? (r : Roster) : Event → Option Roster
  | .acquire =>
    let (parser, rest) := r.checkOut
    some { rest with held := parser :: rest.held }
  | .release place =>
    r.held[place]?.map fun parser => { r with held := r.held.eraseIdx place }.checkIn parser
  | .start =>
    let (parser, rest) := r.checkOut
    some { rest with working := parser :: rest.working }
  | .finish place =>
    r.working[place]?.map fun parser => { r with working := r.working.eraseIdx place }.checkIn parser

/-- What events make of a roster, one after another. -/
def play? (r : Roster) (events : List Event) : Option Roster := events.foldlM step? r

variable {r next : Roster} {event : Event} {events : List Event}

/-! ## Counting along -/

/-- Taking a parser counts as it should, whether an idle one is taken or one is made. -/
theorem pool_checkOut (r : Roster) : r.checkOut.2.pool = r.pool.acquire := by
  unfold checkOut pool Pool.acquire
  cases r.idle <;> simp

/-- So does putting one back. -/
theorem pool_checkIn (r : Roster) (parser : Nat) : (r.checkIn parser).pool = r.pool.release := rfl

/-- Taking a parser by itself hands it to nobody; `step?` says who has it then. -/
theorem held_checkOut (r : Roster) : r.checkOut.2.held = r.held := by
  unfold checkOut
  split <;> rfl

/-- A checkout ends no parse that is being worked on. -/
theorem working_checkOut (r : Roster) : r.checkOut.2.working = r.working := by
  unfold checkOut
  split <;> rfl

/-- The pool and the roster are two accounts of the same event. -/
theorem pool_of_step? (h : r.step? event = some next) : next.pool = event.count r.pool := by
  cases event with
  | acquire =>
    obtain rfl := Option.some.inj h
    exact r.pool_checkOut
  | start =>
    obtain rfl := Option.some.inj h
    exact r.pool_checkOut
  | release place =>
    obtain ⟨parser, -, rfl⟩ := Option.map_eq_some_iff.1 h
    rfl
  | finish place =>
    obtain ⟨parser, -, rfl⟩ := Option.map_eq_some_iff.1 h
    rfl

/-! ## What an event does to the parsers -/

/-- One parser changes its place: it is made and taken, or was idle and is taken, or is put back. -/
inductive Moves (r next : Roster) : Prop where
  | made (none : r.idle = []) (idle : next.idle = []) (made : next.made = r.made + 1)
      (out : next.out.Perm (r.made :: r.out))
  | taken (parser : Nat) (idle : r.idle = parser :: next.idle) (made : next.made = r.made)
      (out : next.out.Perm (parser :: r.out))
  | returned (parser : Nat) (idle : next.idle = parser :: r.idle) (made : next.made = r.made)
      (out : r.out.Perm (parser :: next.out))

/-- Whoever takes a parser gets an idle one if there is one. -/
theorem moves_checkOut (idle : next.idle = r.checkOut.2.idle) (made : next.made = r.checkOut.2.made)
    (out : next.out.Perm (r.checkOut.1 :: r.out)) : r.Moves next := by
  unfold checkOut at idle made out
  cases hidle : r.idle with
  -- Nobody has an idle parser left, so the one that is taken is made.
  | nil =>
    simp only [hidle] at idle made out
    exact .made hidle idle made out
  | cons parser rest =>
    simp only [hidle] at idle made out
    exact .taken parser (by rw [hidle, idle]) made out

/-- The parser at a place is one of all of them, wherever it stands. -/
theorem perm_eraseIdx {parsers : List Nat} {place parser : Nat} (h : parsers[place]? = some parser) :
    parsers.Perm (parser :: parsers.eraseIdx place) := by
  obtain ⟨inside, rfl⟩ := List.getElem?_eq_some_iff.1 h
  exact (List.getElem_cons_eraseIdx_perm inside).symm

/-- Every event moves one parser, and nothing else. -/
theorem moves (h : r.step? event = some next) : r.Moves next := by
  cases event with
  | acquire =>
    obtain rfl := Option.some.inj h
    refine moves_checkOut rfl rfl ?_
    -- It is held from now on, which puts it among those that are out, behind those at work.
    show (r.checkOut.2.working ++ r.checkOut.1 :: r.checkOut.2.held).Perm _
    rw [working_checkOut, held_checkOut]
    exact List.perm_middle
  | start =>
    obtain rfl := Option.some.inj h
    refine moves_checkOut rfl rfl ?_
    -- It is at work from now on, in front of all that are out.
    show ((r.checkOut.1 :: r.checkOut.2.working) ++ r.checkOut.2.held).Perm _
    rw [working_checkOut, held_checkOut]
    exact List.Perm.refl _
  | release place =>
    obtain ⟨parser, hheld, rfl⟩ := Option.map_eq_some_iff.1 h
    refine .returned parser rfl rfl ?_
    exact ((perm_eraseIdx hheld).append_left r.working).trans List.perm_middle
  | finish place =>
    obtain ⟨parser, hworking, rfl⟩ := Option.map_eq_some_iff.1 h
    exact .returned parser rfl rfl ((perm_eraseIdx hworking).append_right r.held)

/-! ## Each parser is in one place -/

/-- Each parser that was made is either idle or checked out, and there are no others. -/
def Placed (r : Roster) : Prop := (r.idle ++ r.out).Perm (List.range r.made)

/-- In particular no parser is counted twice. -/
theorem Placed.length_add (placed : r.Placed) : r.idle.length + r.out.length = r.made := by
  rw [← List.length_append, placed.length_eq, List.length_range]

/-- Moving a parser loses none and makes no second one of it. -/
theorem Moves.placed (h : r.Moves next) (placed : r.Placed) : next.Placed := by
  unfold Placed at placed ⊢
  cases h with
  | made none idle made out =>
    -- All parsers were out, and the new one is the next in the row.
    rw [none, List.nil_append] at placed
    rw [idle, List.nil_append, made, List.range_succ]
    exact out.trans ((placed.cons r.made).trans (List.perm_append_singleton r.made _).symm)
  | taken parser idle made out =>
    -- The one that is taken goes from one side of the list to the other.
    rw [idle] at placed
    rw [made]
    exact (out.append_left next.idle).trans (List.perm_middle.trans placed)
  | returned parser idle made out =>
    -- The way back is the same, read from right to left.
    rw [idle, made]
    exact List.perm_middle.symm.trans ((out.symm.append_left r.idle).trans placed)

/-- A parser is made only when all others are checked out. -/
theorem Moves.made_eq_max (h : r.Moves next) (placed : r.Placed) :
    next.made = max r.made next.out.length := by
  have hbefore := placed.length_add
  have hafter := (h.placed placed).length_add
  -- a new parser is only made if none is idle, so then all of them are out; else fewer are than before
  -- they were made
  cases h with
  | made none idle made out =>
    rw [none, List.length_nil] at hbefore
    rw [idle, List.length_nil] at hafter
    omega
  | taken parser idle made out => omega
  | returned parser idle made out => omega

/-! ## The course of events -/

/-- A course of events ends with its last event. -/
theorem play?_concat (r : Roster) (past : List Event) (event : Event) :
    r.play? (past ++ [event]) = (r.play? past).bind (·.step? event) := by
  unfold play?
  rw [List.foldlM_append]
  simp

/-- How many parsers were checked out at the moments of a course of events. -/
def counts (events : List Event) : Set Nat :=
  {n | ∃ past moment, past <+: events ∧ play? {} past = some moment ∧ moment.out.length = n}

/-- One more event is one more moment. -/
theorem counts_concat (h : play? {} (events ++ [event]) = some next) :
    counts (events ++ [event]) = insert next.out.length (counts events) := by
  ext n
  constructor
  -- The moments of the longer course are those of the shorter one and its end.
  · rintro ⟨past, moment, hpast, hplay, rfl⟩
    rcases List.prefix_concat_iff.1 hpast with rfl | hpast
    · obtain rfl := Option.some.inj (h.symm.trans hplay)
      exact Set.mem_insert _ _
    · exact Set.mem_insert_of_mem _ ⟨past, moment, hpast, hplay, rfl⟩
  · rintro (rfl | ⟨past, moment, hpast, hplay, rfl⟩)
    · exact ⟨_, next, List.prefix_rfl, h, rfl⟩
    · exact ⟨past, moment, hpast.trans (List.prefix_append _ _), hplay, rfl⟩

/-- What is known of a roster after a course of events: the pool has counted along, each parser is in
    its place, and as many were made as were checked out at the busiest moment. -/
structure Follows (r : Roster) (events : List Event) : Prop where
  pool_eq : r.pool = events.foldl (fun pool event => event.count pool) {}
  placed : r.Placed
  busiest : IsGreatest (counts events) r.made

/-- Before anything happens, nothing is there, and that is the only moment so far. -/
theorem follows_nil : ({} : Roster).Follows [] where
  pool_eq := rfl
  placed := List.Perm.refl _
  busiest := by
    refine ⟨⟨[], {}, List.prefix_rfl, rfl, rfl⟩, ?_⟩
    rintro n ⟨past, moment, hpast, hplay, rfl⟩
    obtain rfl := List.prefix_nil.1 hpast
    obtain rfl := Option.some.inj hplay
    exact Nat.le_refl 0

/-- What is known of a roster is kept by every event. -/
theorem Follows.concat (h : r.Follows events) (hstep : r.step? event = some next)
    (hplay : play? {} (events ++ [event]) = some next) : next.Follows (events ++ [event]) where
  pool_eq := by rw [pool_of_step? hstep, h.pool_eq, List.foldl_append]; rfl
  placed := (moves hstep).placed h.placed
  busiest := by
    -- The greatest of the counts so far is the number made, and only the last moment can exceed it.
    rw [counts_concat hplay, (moves hstep).made_eq_max h.placed, max_comm]
    exact h.busiest.insert _

/-- What has been played back follows the events. -/
theorem follows_of_play? (h : play? {} events = some r) : r.Follows events := by
  -- from the last event back, as the busiest moment is among all earlier ones
  induction events using List.reverseRecOn generalizing r with
  | nil =>
    obtain rfl := Option.some.inj h
    exact follows_nil
  | append_singleton past event ih =>
    rw [play?_concat] at h
    obtain ⟨moment, hpast, hstep⟩ := Option.bind_eq_some_iff.1 h
    exact (ih hpast).concat hstep ((play?_concat {} past event).trans h)

/-! ## Parses -/

/-- However a parse ends, its parser is put back. -/
theorem parse_eq (r : Roster) (parser : Parser) (grammar : Grammar) (text : Text)
    (previous : Option PreviousTree) (limit : Nat) :
    r.parse parser grammar text previous limit =
      (r.checkOut.2.checkIn r.checkOut.1, Pool.attempt parser grammar text previous limit) := by
  unfold parse Pool.attempt
  dsimp only
  cases grammar.rejection with
  | some reason => rfl
  | none =>
    dsimp only
    cases parser grammar.language text previous limit <;> rfl

/-- A parse makes at most one parser. -/
theorem made_checkOut_le (r : Roster) :
    r.made ≤ r.checkOut.2.made ∧ r.checkOut.2.made ≤ r.made + 1 := by
  unfold checkOut
  cases r.idle with
  | nil => exact ⟨Nat.le_succ _, Nat.le_refl _⟩
  | cons parser rest => exact ⟨Nat.le_refl _, Nat.le_succ _⟩

/-- Users of a pool take and return parsers, and parses start and end, in any order.  The pool counts
    what is there: each parser that was made is idle, or at work, or held, and only in one of these
    places, so the idle ones are all but those that are checked out.  As many were made as were checked
    out at the same time at the busiest moment so far.  And a parse, however it ends, is its start and
    its end: it makes one parser at most, and leaves those that are held or at work as they are. -/
theorem every_parser_accounted_for (h : play? {} events = some r) :
    r.pool = events.foldl (fun pool event => event.count pool) {} ∧
      (r.idle ++ (r.working ++ r.held)).Perm (List.range r.pool.created) ∧
      r.working.length + r.held.length ≤ r.pool.created ∧
      r.pool.idle = r.pool.created - (r.working.length + r.held.length) ∧
      IsGreatest (counts events) r.pool.created ∧
      ∀ (parser : Parser) (grammar : Grammar) (text : Text) (previous : Option PreviousTree)
        (limit : Nat),
        let parsed := r.parse parser grammar text previous limit
        r.play? [.start, .finish 0] = some parsed.1 ∧
          r.pool.parse parser grammar text previous limit = (parsed.1.pool, parsed.2) ∧
          r.pool.created ≤ parsed.1.pool.created ∧ parsed.1.pool.created ≤ r.pool.created + 1 ∧
          parsed.1.held = r.held ∧ parsed.1.working = r.working := by
  -- Each part is one of the facts that the course of events has kept, with the numbers of the pool
  -- for those of the roster.
  have hfollows := follows_of_play? h
  have hlength : r.idle.length + (r.working ++ r.held).length = r.made :=
    hfollows.placed.length_add
  rw [List.length_append] at hlength
  have hcreated : r.pool.created = r.made := rfl
  have hidle : r.pool.idle = r.idle.length := rfl
  refine ⟨hfollows.pool_eq, hfollows.placed, by omega, by omega, hfollows.busiest, ?_⟩
  intro parser grammar text previous limit
  dsimp only
  rw [parse_eq]
  obtain ⟨hle, hge⟩ := r.made_checkOut_le
  -- The parser that the parse takes is put back, so those held and at work are as before.
  refine ⟨rfl, ?_, hle, hge, r.held_checkOut, r.working_checkOut⟩
  rw [pool_checkIn, pool_checkOut]
  rfl

/-- Two users take parsers while a parse runs, the first of them returns its own, and a second parse
    gets that one. -/
def sharedPool : List Event := [.acquire, .start, .acquire, .finish 0, .release 1, .start]

/-- The busiest moment is the third event, when two users and the parse have a parser each. -/
theorem every_parser_accounted_for_shared :
    let r : Roster := { made := 3, idle := [1], held := [2], working := [0] }
    let grammar : Grammar := ⟨"old", [], some "version 1"⟩
    let parsed := r.parse (.ofRecordings [] none) grammar ['1'] none 5
    play? {} sharedPool = some r ∧ (r.idle ++ (r.working ++ r.held)).Perm (List.range 3) ∧
      r.pool.idle = 3 - (1 + 1) ∧ IsGreatest (counts sharedPool) 3 ∧
      r.play? [.start, .finish 0] = some parsed.1 ∧
      parsed.2 = .error (.rejected (.incompatible "old" "version 1")) ∧
      parsed.1.pool.created ≤ 3 + 1 ∧ parsed.1.held = [2] ∧ parsed.1.working = [0] := by
  dsimp only
  have hplay : play? {} sharedPool =
      some { made := 3, idle := [1], held := [2], working := [0] } := by decide
  obtain ⟨-, hplaced, -, hidle, hbusiest, hparses⟩ := every_parser_accounted_for hplay
  obtain ⟨hparse, -, -, hmade, hheld, hworking⟩ :=
    hparses (.ofRecordings [] none) ⟨"old", [], some "version 1"⟩ ['1'] none 5
  exact ⟨hplay, hplaced, hidle, hbusiest, hparse, rfl, hmade, hheld, hworking⟩

end Roster

end LiveTree
