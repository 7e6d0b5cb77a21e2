import Because.Proofs.Graph.History

/-!
# Where reasons get their locations

A reason that is recorded without a location takes that of the first located reason among those
that it rests on, and keeps it. So it shows a location that was given for some reason far beneath
it, and this one can be named without looking at what the reasons in between have stored: a search
through all that the reason rests on, from left to right and depth first, comes upon it first.
-/

namespace Because

/-- What finds the same in each item finds the same first. -/
lemma findSome?_congr {α β : Type} {f f' : α → Option β} {items : List α}
    (each : ∀ item ∈ items, f item = f' item) : items.findSome? f = items.findSome? f' := by
  induction items with
  | nil => rfl
  | cons item rest ih =>
    obtain ⟨first, others⟩ := List.forall_mem_cons.1 each
    rw [List.findSome?_cons, List.findSome?_cons, first, ih others]

namespace Graph

/-! ## What was given -/

/-- The location that was given for the reason that an operation records, if it records one. -/
def Operation.given (g : Graph) (operation : Operation) : List (Option Location) :=
  match (operation.run g).1, operation.request? with
  | .ok _, some (_, _, location) => [location]
  | _, _ => []

/-- The locations that were given for the reasons that operations record, in their order. -/
def givenAlong (g : Graph) : List Operation → List (Option Location)
  | [] => []
  | operation :: rest => operation.given g ++ (operation.run g).2.givenAlong rest

/-- The location that was given for a reason of a new graph when it was recorded. -/
def givenFor (operations : List Operation) (id : ReasonId) : Option Location :=
  ((empty.givenAlong operations)[id]?).join

/-- The location that a reason has stored; a number that no reason has leads to none. -/
def locationAt (g : Graph) (id : ReasonId) : Option Location := (g.nodes[id]?).bind Node.location

/-- A search for locations among `ids`, from left to right and depth first. Where it has met `met`
before, it meets `new`, in this order, and each reason once. It does not look beneath a reason that
was given a location; beneath any other it looks before it goes on. -/
inductive Search (g : Graph) (given : ReasonId → Option Location) :
    List ReasonId → List ReasonId → List ReasonId → Prop where
  | done {met} : Search g given met [] []
  | again {met id rest new} :
    id ∈ met →
    Search g given met rest new →
    Search g given met (id :: rest) new
  | located {met id location rest new} :
    id ∉ met →
    given id = some location →
    Search g given (id :: met) rest new →
    Search g given met (id :: rest) (id :: new)
  | through {met id node rest beneath beyond} :
    id ∉ met →
    given id = none →
    g.nodes[id]? = some node →
    Search g given (id :: met) node.supporters beneath →
    Search g given (beneath ++ id :: met) rest beyond →
    Search g given met (id :: rest) (id :: (beneath ++ beyond))

variable {g : Graph} {operation : Operation} {kind : Kind} {supporters : List ReasonId}
  {location : Option Location} {given : List (Option Location)}

/-! ## How a history inherits locations -/

/-- For an operation that records a reason the location that it asks for is given. -/
lemma given_recorded (asked : operation.request? = some (kind, supporters, location))
    {id : Option ReasonId} (answers : (operation.run g).1 = .ok id) :
    operation.given g = [location] := by
  simp only [Operation.given, answers, asked]

/-- An operation records a reason and gives what was asked for it, or it adds nothing and gives
nothing. -/
lemma given_cases (g : Graph) (operation : Operation) :
    (∃ kind supporters location, operation.given g = [location] ∧
      (∀ j : Nat, j ∈ supporters → j < g.size) ∧
      (operation.run g).2 = g.push kind supporters (g.locate supporters location)) ∨
    (operation.given g = [] ∧ (operation.run g).2.size = g.size) := by
  obtain ⟨kind, supporters, location, asked, older, runs⟩ | ⟨id, rfl, -, runs⟩ |
    ⟨-, cause, runs⟩ := run_cases g operation
  · refine .inl ⟨kind, supporters, location, ?_, older, congrArg Prod.snd runs⟩
    exact given_recorded asked (congrArg Prod.fst runs)
  · refine .inr ⟨?_, by rw [runs, size_hideAt]⟩
    simp only [Operation.given, Operation.request?, runs]
  · refine .inr ⟨?_, by rw [runs]⟩
    simp only [Operation.given, runs]

/-- Locations are given along one list of operations and then along the other. -/
lemma givenAlong_append (g : Graph) (operations others : List Operation) :
    g.givenAlong (operations ++ others) =
      g.givenAlong operations ++ (g.after operations).givenAlong others := by
  induction operations generalizing g with
  | nil => rfl
  | cons operation rest ih =>
    rw [List.cons_append, givenAlong, givenAlong, ih, after_cons, List.append_assoc]

/-- An operation leaves the locations of what is there. -/
lemma locationAt_run {id : Nat} (lt : id < g.size) (operation : Operation) :
    (operation.run g).2.locationAt id = g.locationAt id := by
  have found : g.nodes[id]? = some g.nodes[id] := Array.getElem?_eq_getElem lt
  simp only [locationAt, nodes_run found operation, found, Option.bind_some]

/-- Later operations change nothing about the location that older reasons have. -/
lemma locate_run (older : ∀ j : Nat, j ∈ supporters → j < g.size) (operation : Operation)
    (location : Option Location) :
    (operation.run g).2.locate supporters location = g.locate supporters location := by
  have same : supporters.findSome? (operation.run g).2.locationAt =
      supporters.findSome? g.locationAt :=
    findSome?_congr fun j mem => locationAt_run (older j mem) operation
  exact congrArg (location <|> ·) same

/-- Every reason has the location that was given for it, or else that of the first located reason
that it rests on. -/
structure Inherits (g : Graph) (given : List (Option Location)) : Prop where
  length : given.length = g.size
  placed : ∀ (i : Nat) (node : Node), g.nodes[i]? = some node → Placed i node
  located : ∀ (i : Nat) (node : Node), g.nodes[i]? = some node →
    node.location = g.locate node.supporters (given[i]?).join

namespace Inherits

/-- The empty graph has no reasons, and so no locations are given for it. -/
lemma empty : Graph.empty.Inherits [] where
  length := rfl
  placed i node found := by simp [Graph.empty] at found
  located i node found := by simp [Graph.empty] at found

/-- A location, or that there is none, is given for each new reason. -/
lemma length_run (h : g.Inherits given) (operation : Operation) :
    (given ++ operation.given g).length = (operation.run g).2.size := by
  obtain ⟨kind, supporters, location, gives, -, runs⟩ | ⟨gives, size⟩ := given_cases g operation
  · rw [gives, runs, size_push, List.length_append, h.length]
    rfl
  · rw [gives, size, List.append_nil, h.length]

/-- Whatever an operation records inherits its location, and what was there keeps its own. -/
lemma run (h : g.Inherits given) (operation : Operation) :
    (operation.run g).2.Inherits (given ++ operation.given g) where
  length := h.length_run operation
  placed _ _ := placed_run h.placed operation
  located i node found := by
    by_cases lt : i < g.size
    · have was : g.nodes[i]? = some g.nodes[i] := Array.getElem?_eq_getElem lt
      rw [nodes_run was operation] at found
      cases found
      have older (j : Nat) (mem : j ∈ g.nodes[i].supporters) : j < g.size :=
        Nat.lt_trans ((h.placed i _ was).older j mem) lt
      simp only [locate_run older, List.getElem?_append_left (h.length ▸ lt)]
      exact h.located i _ was
    · -- The reason is new, so that the operation has recorded it.
      have there := lt_size found
      obtain ⟨kind, supporters, location, gives, older, runs⟩ | ⟨-, size⟩ := given_cases g operation
      · rw [runs, size_push] at there
        obtain rfl : i = g.size := by omega
        simp only [runs, push, Array.getElem?_push, size, if_true] at found
        cases found
        have own : (given ++ operation.given g)[g.size]? = some location := by
          rw [gives, ← h.length, List.getElem?_concat_length]
        rw [locate_run older, own]
        rfl
      · rw [size] at there
        exact (lt there).elim

/-- Whatever operations follow, locations stay inherited. -/
lemma after (h : g.Inherits given) (operations : List Operation) :
    (g.after operations).Inherits (given ++ g.givenAlong operations) := by
  induction operations generalizing g given with
  | nil =>
    rw [givenAlong, List.append_nil]
    exact h
  | cons operation rest ih =>
    rw [after_cons, givenAlong, ← List.append_assoc]
    exact ih (h.run operation)

end Inherits

/-- Whatever operations have made a graph, it inherits the locations that were given for it. -/
lemma inherits_after (operations : List Operation) :
    (empty.after operations).Inherits (empty.givenAlong operations) :=
  Inherits.empty.after operations

/-- What is given for a reason is what the operation that has recorded it gives. -/
lemma givenFor_recorded {before later : List Operation} {id : Nat}
    (asked : operation.request? = some (kind, supporters, location))
    (answers : (operation.run (empty.after before)).1 = .ok (some id)) :
    givenFor (before ++ operation :: later) id = location := by
  have last : id = (empty.givenAlong before).length := by
    obtain ⟨kind, supporters, location, -, -, runs⟩ | ⟨other, -, -, runs⟩ | ⟨-, cause, runs⟩ :=
      run_cases (empty.after before) operation
    · rw [runs] at answers
      cases answers
      exact (inherits_after before).length.symm
    all_goals
      rw [runs] at answers
      cases answers
  rw [givenFor, givenAlong_append, givenAlong, given_recorded asked answers, last,
    List.getElem?_append_right (Nat.le_refl _), Nat.sub_self]
  rfl

/-! ## The search -/

variable {operations : List Operation} {met ids new : List ReasonId}

/-- What a reason has stored that was given a location. -/
lemma locationAt_of_given {id : Nat} {own : Location} (lt : id < (empty.after operations).size)
    (has : givenFor operations id = some own) :
    (empty.after operations).locationAt id = some own := by
  have found : (empty.after operations).nodes[id]? = some (empty.after operations).nodes[id] :=
    Array.getElem?_eq_getElem lt
  rw [locationAt, found, Option.bind_some, (inherits_after operations).located id _ found,
    ← givenFor, has]
  rfl

/-- What a reason has stored that was given none. -/
lemma locationAt_of_not_given {id : Nat} {node : Node}
    (found : (empty.after operations).nodes[id]? = some node)
    (has : givenFor operations id = none) :
    (empty.after operations).locationAt id =
      node.supporters.findSome? (empty.after operations).locationAt := by
  rw [locationAt, found, Option.bind_some, (inherits_after operations).located id _ found,
    ← givenFor, has]
  rfl

/-- A search among recorded reasons comes to an end. -/
lemma search_ends (operations : List Operation) {bound : Nat}
    (there : bound ≤ (empty.after operations).size) (met : List ReasonId)
    (below : ∀ id : Nat, id ∈ ids → id < bound) :
    ∃ new, (empty.after operations).Search (givenFor operations) met ids new := by
  -- Beneath a reason there are older ones only, so that the bound falls with the depth.
  induction bound using Nat.strongRecOn generalizing met ids with
  | ind bound deeper =>
    induction ids generalizing met with
    | nil => exact ⟨[], .done⟩
    | cons id rest ih =>
      obtain ⟨lt, others⟩ := List.forall_mem_cons.1 below
      by_cases known : id ∈ met
      · obtain ⟨new, search⟩ := ih met others
        exact ⟨new, .again known search⟩
      · cases has : givenFor operations id with
        | some location =>
          obtain ⟨new, search⟩ := ih (id :: met) others
          exact ⟨id :: new, .located known has search⟩
        | none =>
          have recorded : id < (empty.after operations).nodes.size := Nat.lt_of_lt_of_le lt there
          have found : (empty.after operations).nodes[id]? =
              some (empty.after operations).nodes[id] :=
            Array.getElem?_eq_getElem recorded
          have older := ((inherits_after operations).placed id _ found).older
          obtain ⟨beneath, inside⟩ :=
            deeper id lt (Nat.le_trans (Nat.le_of_lt lt) there) (id :: met) older
          obtain ⟨beyond, search⟩ := ih (beneath ++ id :: met) others
          exact ⟨id :: (beneath ++ beyond), .through known has found inside search⟩

/-- The first reason that a search meets with a location given for it has the location that the
first located one of `ids` has stored, if what the search passes by has stored none. -/
lemma Search.finds (search : (empty.after operations).Search (givenFor operations) met ids new)
    {bound : Nat} (there : bound ≤ (empty.after operations).size)
    (below : ∀ id : Nat, id ∈ ids → id < bound)
    (bare : ∀ id : Nat, id ∈ met → id < bound → (empty.after operations).locationAt id = none) :
    new.findSome? (givenFor operations) = ids.findSome? (empty.after operations).locationAt ∧
      (ids.findSome? (empty.after operations).locationAt = none →
        ∀ id ∈ new, (empty.after operations).locationAt id = none) := by
  induction search generalizing bound with
  | done => exact ⟨rfl, fun _ => List.forall_mem_nil _⟩
  | @again met id rest new known search ih =>
    obtain ⟨lt, others⟩ := List.forall_mem_cons.1 below
    rw [List.findSome?_cons, bare id known lt]
    exact ih there others bare
  | @located met id location rest new fresh has search ih =>
    have stored := locationAt_of_given (Nat.lt_of_lt_of_le (below id List.mem_cons_self) there) has
    rw [List.findSome?_cons, List.findSome?_cons, has, stored]
    exact ⟨rfl, nofun⟩
  | @through met id node rest beneath beyond fresh has found inside search ihInside ih =>
    obtain ⟨lt, others⟩ := List.forall_mem_cons.1 below
    have older := ((inherits_after operations).placed id node found).older
    have stored := locationAt_of_not_given found has
    -- Beneath the reason the search cannot meet it again, so that it need not be bare there.
    obtain ⟨first, nothing⟩ := ihInside (Nat.le_of_lt (lt_size found)) older fun j mem earlier => by
      obtain rfl | mem := List.mem_cons.1 mem
      · exact (Nat.lt_irrefl j earlier).elim
      · exact bare j mem (Nat.lt_trans earlier lt)
    rw [List.findSome?_cons, List.findSome?_cons, has, List.findSome?_append, first, stored]
    cases e : node.supporters.findSome? (empty.after operations).locationAt with
    | some location => exact ⟨rfl, nofun⟩
    | none =>
      rw [e] at stored
      have passed (j : Nat) (mem : j ∈ beneath ++ id :: met) (earlier : j < bound) :
          (empty.after operations).locationAt j = none := by
        obtain mem | mem := List.mem_append.1 mem
        · exact nothing e j mem
        · obtain rfl | mem := List.mem_cons.1 mem
          · exact stored
          · exact bare j mem earlier
      obtain ⟨next, rests⟩ := ih there others passed
      refine ⟨next, fun none => List.forall_mem_cons.2 ⟨stored, fun j mem => ?_⟩⟩
      obtain mem | mem := List.mem_append.1 mem
      · exact nothing e j mem
      · exact rests none j mem

/-- Whatever operations a graph has seen, a reason has the location that was given for it, and
without one that which was given for the first such reason that a search beneath it meets, from left
to right and depth first, or none if the search meets no such reason. The search always ends, and no
later operation changes the location. -/
theorem history_located (operations : List Operation) :
    let g := empty.after operations
    let given := givenFor operations
    (∀ before operation later kind supporters location id,
      operations = before ++ operation :: later →
      operation.request? = some (kind, supporters, location) →
      (operation.run (empty.after before)).1 = .ok (some id) → given id = location) ∧
    ∀ (i : Nat) (node : Node), g.nodes[i]? = some node →
      (∀ location, given i = some location → node.location = some location) ∧
      (given i = none →
        (∃ met, g.Search given [] node.supporters met) ∧
        ∀ met, g.Search given [] node.supporters met → node.location = met.findSome? given) ∧
      ∀ later, ∃ node', (g.after later).nodes[i]? = some node' ∧
        node'.location = node.location := by
  intro g given
  refine ⟨?_, fun i node found => ?_⟩
  · rintro before operation later kind supporters location id rfl asked answers
    exact givenFor_recorded asked answers
  have stored : g.locationAt i = node.location := by rw [locationAt, found, Option.bind_some]
  have there : i ≤ g.size := Nat.le_of_lt (lt_size found)
  have older := ((inherits_after operations).placed i node found).older
  refine ⟨fun location has => ?_, fun has => ⟨search_ends operations there [] older, ?_⟩,
    fun later => ⟨_, nodes_after found later, rfl⟩⟩
  · rw [← stored]
    exact locationAt_of_given (lt_size found) has
  · intro met search
    obtain ⟨finds, -⟩ := search.finds there older nofun
    rw [finds, ← stored]
    exact locationAt_of_not_given found has

/-- The last reason is located two steps beneath it, behind a reason that the search meets twice. -/
example : (empty.after [.text "a", .conjAt "b" [0] ⟨"program", 3⟩, .conj "c" [0],
    .conj "d" [2, 1], .conj "e" [2, 0, 3]]).locationAt 4 = some ⟨"program", 3⟩ := by
  decide

end Graph

end Because
