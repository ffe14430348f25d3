import Observables.Proofs.Passage

/-!
# Operations that edit a roll

Each operation on a list, performed at the outermost level while the world
shows a roll, comes to its end with the answer of the roll's edit, has made
visible what the edit makes visible, and leaves a world that shows the roll
that the edit leaves.
-/

namespace Observables

open Script

/-- The machine comes to its end with the answer of an edit, notes its events after those of
the world, and leaves a world that shows the roll of the edit. -/
def Machine.CarriesOut (machine : Machine) (world : World) (container : ContainerRef)
    (realm : RealmRef) (locals : Variables) (edited : Edited) : Prop :=
  ∃ other, machine.Reaches ⟨other, locals, [], .resume (.value edited.reply)⟩ ∧
    world.journal.Notes edited.events other.journal ∧
    Shows other container realm edited.roll edited.roll.pending none

/-- What the machine comes to carries out what it carries out. -/
theorem Machine.Reaches.carriesOut {machine middle : Machine} {world : World}
    {container : ContainerRef} {realm : RealmRef} {locals : Variables} {edited : Edited}
    (reaches : machine.Reaches middle)
    (carries : middle.CarriesOut world container realm locals edited) :
    machine.CarriesOut world container realm locals edited := by
  obtain ⟨other, further, events, shown⟩ := carries
  exact ⟨other, reaches.trans further, events, shown⟩

/-- What arrives at the end of an operation carries out its edit. -/
theorem Machine.Arrives.carriesOut {machine : Machine} {world : World}
    {container : ContainerRef} {realm : RealmRef} {locals : Variables} {edited : Edited}
    (quiet : world.Notes [] machine.world)
    (arrives : machine.Arrives edited.events locals [.operating container] edited.reply fun other =>
      Shows other container realm edited.roll edited.roll.pending none) :
    machine.CarriesOut world container realm locals edited := by
  obtain ⟨other, reaches, noted, shown⟩ := arrives
  exact ⟨other, reaches.trans ⟨1, rfl⟩, (quiet.trans noted).journal, shown⟩

section

variable {world : World} {container : ContainerRef} {realm : RealmRef} {roll : Roll}

/-- A new element has the teardowns that were bound to its key while it was announced. -/
theorem Roll.pending_insert {place : Nat} (within : place ≤ roll.rows.length) {item : Value}
    {bound : List Listener} {left : Roll}
    (rows : left.rows = roll.rows.insertIdx place ⟨item, ⟨roll.id, roll.nextSeq⟩, bound⟩)
    (proper : roll.sequence.Proper) (different : left.keys.Nodup) :
    joined (some ⟨roll.id, roll.nextSeq⟩) bound roll.pending = left.pending := by
  have fresh : (⟨roll.id, roll.nextSeq⟩ : Key) ∉ roll.keys := fun inside =>
    roll.sequence.not_allotted_freshKey (proper.allotted _ inside)
  funext key
  unfold joined
  by_cases new : (⟨roll.id, roll.nextSeq⟩ : Key) = key
  · subst new
    have inside : (⟨item, ⟨roll.id, roll.nextSeq⟩, bound⟩ : Row) ∈ left.rows := by
      rw [rows]
      exact (List.mem_insertIdx within).mpr (.inl rfl)
    rw [if_pos rfl, pending_of_not_mem fresh, List.nil_append]
    exact (pending_of_mem different inside).symm
  · rw [if_neg fun same => new (Option.some.inj same), List.append_nil]
    by_cases old : key ∈ roll.keys
    · obtain ⟨row, inside, rfl⟩ := exists_row old
      have still : row ∈ left.rows := by
        rw [rows]
        exact (List.mem_insertIdx within).mpr (.inr inside)
      rw [pending_of_mem proper.nodup inside, pending_of_mem different still]
    · have absent : key ∉ left.keys := by
        intro inside
        obtain ⟨row, there, rfl⟩ := exists_row inside
        rw [rows] at there
        rcases (List.mem_insertIdx within).mp there with same | there
        · rw [same] at new
          exact new rfl
        · exact old (List.mem_map_of_mem there)
      rw [pending_of_not_mem old, pending_of_not_mem absent]

/-- An element is put into a list as its roll says. -/
theorem Shows.insertAt (shows : Shows world container realm roll roll.pending none)
    (position : Nat) (item : Value) (locals : Variables) (focus : Focus) :
    ((⟨world, locals, [.operating container], focus⟩ : Machine).insertAt container position
      item).CarriesOut world container realm locals (roll.insert position item) := by
  let place := min position roll.rows.length
  let key : Key := ⟨roll.id, roll.nextSeq⟩
  let added (pending : List Listener) : Roll :=
    { roll with
      nextSeq := roll.nextSeq + 1
      rows := roll.rows.insertIdx place ⟨item, key, pending⟩ }
  let bound := (added []).bound (some key) (.added item place)
  have within : place ≤ roll.rows.length := Nat.min_le_right _ _
  have length : (world.container container).items.length = roll.rows.length := by
    rw [shows.items, Roll.items, List.length_map]
  have begins : (⟨world, locals, [.operating container], focus⟩ : Machine).insertAt container
      position item = ⟨world.insertElement container place item, locals,
        [.notify container .changed, .announce container key item place, .settle container key,
          .yield .null, .operating container], .resume (.value .null)⟩ := by
    simp only [Machine.insertAt, shows.isBorrowed, length, shows.keys]
    rfl
  have quiet : world.Notes [] (world.insertElement container place item) := by
    have same : world.Notes [] (world.modifyContents container (.insert place item)) :=
      .of_journal rfl rfl
    exact same.trans (World.notes_traceAll _ _)
  have shown : Shows (world.insertElement container place item) container realm (added [])
      roll.pending none := shows.insert within item []
  have inside : key ∈ (added []).keys :=
    List.mem_map.mpr ⟨_, (List.mem_insertIdx within).mpr (.inl rfl), rfl⟩
  rw [begins]
  refine Machine.Arrives.carriesOut quiet ?_
  refine (shown.notify_closed .changed locals _ _).proceeds fun _ _ shown => ?_
  rw [← List.append_nil (Roll.told _ (some _) _)]
  refine (shown.announce key item place locals _ _).proceeds fun _ _ shown => ?_
  refine (shown.settle inside locals _ _).proceeds fun last _ shown => ?_
  refine .skip rfl (.refl last) (.here ?_)
  have items : ((added bound).rows.map (·.item)) = (added []).items := by
    simp only [added, Roll.items, List.map_insertIdx]
  have keys : ((added bound).rows.map (·.key)) = (added []).keys := by
    simp only [added, Roll.keys, List.map_insertIdx]
  have final := shown.of_rows items keys
  have pending : joined (some key) bound roll.pending = (added bound).pending :=
    Roll.pending_insert within rfl shows.proper final.proper.nodup
  rw [pending] at final
  exact final

/-- Without its row nothing waits for a key. -/
theorem Roll.pending_remove {position : Nat} {row : Row}
    (there : roll.rows[position]? = some row) (proper : roll.sequence.Proper) {left : Roll}
    (rows : left.rows = roll.rows.eraseIdx position) :
    (fun key => if key ∈ [row.key] then [] else roll.pending key) = left.pending := by
  have keys : left.keys = roll.keys.eraseIdx position := by
    rw [Roll.keys, rows, Roll.keys, List.eraseIdx_map]
  have at? : roll.sequence.keyAt? position = some row.key := by
    rw [KeySequence.keyAt?, Roll.sequence, Roll.keys, List.getElem?_map, there]
    rfl
  have gone : row.key ∉ left.keys := by
    rw [keys]
    exact (proper.departed_release at?).2
  have different : left.keys.Nodup := by
    rw [keys]
    exact proper.nodup.sublist (List.eraseIdx_sublist _ _)
  funext key
  by_cases same : key = row.key
  · rw [if_pos (List.mem_singleton.mpr same), same, pending_of_not_mem gone]
  · rw [if_neg fun inside => same (List.mem_singleton.mp inside)]
    by_cases still : key ∈ left.keys
    · obtain ⟨other, inside, rfl⟩ := exists_row still
      have before : other ∈ roll.rows := by
        rw [rows] at inside
        exact List.mem_of_mem_eraseIdx inside
      rw [pending_of_mem proper.nodup before, pending_of_mem different inside]
    · have absent : key ∉ roll.keys := by
        intro inside
        obtain ⟨place, here⟩ := List.mem_iff_getElem?.mp inside
        by_cases moved : place = position
        · subst moved
          exact same (Option.some.inj (here.symm.trans at?))
        · refine still ?_
          rw [keys]
          exact List.mem_eraseIdx_iff_getElem?.mpr ⟨place, moved, here⟩
      rw [pending_of_not_mem absent, pending_of_not_mem still]

/-- An answer without any change carries out an edit without any change. -/
theorem Shows.answers (shows : Shows world container realm roll roll.pending none) (reply : Value)
    (locals : Variables) (focus : Focus) :
    ((⟨world, locals, [.operating container], focus⟩ : Machine).answer reply).CarriesOut world
      container realm locals ⟨reply, [], roll⟩ :=
  ⟨world, ⟨1, rfl⟩, .refl world.journal, shows⟩

/-- The element at a position is taken out of a list as its roll says. -/
theorem Shows.removeAt (shows : Shows world container realm roll roll.pending none)
    (position : Nat) (locals : Variables) (focus : Focus) :
    ((⟨world, locals, [.operating container], focus⟩ : Machine).removeAt container
      position).CarriesOut world container realm locals (roll.remove position) := by
  have at? : (world.container container).items[position]? = roll.rows[position]?.map (·.item) := by
    rw [shows.items, Roll.items, List.getElem?_map]
  have keyAt? : (world.container container).keys.keyAt? position =
      roll.rows[position]?.map (·.key) := by
    rw [shows.keys, KeySequence.keyAt?, Roll.sequence, Roll.keys, List.getElem?_map]
  have belongs : (world.container container).realm = realm := shows.belongs
  cases there : roll.rows[position]? with
  | none =>
    rw [there, Option.map_none] at at?
    have begins : (⟨world, locals, [.operating container], focus⟩ : Machine).removeAt container
        position =
          (⟨world, locals, [.operating container], focus⟩ : Machine).answer (.list []) := by
      simp only [Machine.removeAt, shows.isBorrowed, at?, shows.direct]
      rfl
    have unchanged : roll.remove position = ⟨.list [], [], roll⟩ := by
      rw [Roll.remove, there]
    rw [begins, unchanged]
    exact shows.answers _ locals focus
  | some row =>
    rw [there, Option.map_some] at at? keyAt?
    let left : Roll := { roll with rows := roll.rows.eraseIdx position }
    have begins : (⟨world, locals, [.operating container], focus⟩ : Machine).removeAt container
        position = ⟨world.removeElement container position, locals,
          [.discharge realm [row.key], .notify container .changed,
            .notify container (.removed position), .yield (.list [row.item]),
            .operating container], .resume (.value .null)⟩ := by
      simp only [Machine.removeAt, shows.isBorrowed, at?, keyAt?, shows.direct, belongs]
      rfl
    have quiet : world.Notes [] (world.removeElement container position) := by
      have same : world.Notes [] (world.modifyContents container (.remove position)) :=
        .of_journal rfl rfl
      exact same.trans (World.notes_traceAll _ _)
    have edited : roll.remove position = ⟨.list [row.item],
        left.tornDown row.pending ++ left.told none .changed ++
          left.told none (.removed position), left⟩ := by
      rw [Roll.remove, there]
    have inside : row ∈ roll.rows := List.mem_of_getElem? there
    have own (key : Key) (is : key ∈ [row.key]) : key.container = left.id := by
      rw [List.mem_singleton.mp is]
      exact (shows.proper.allotted _ (List.mem_map_of_mem inside)).1
    have shown : Shows (world.removeElement container position) container realm left roll.pending
        none := shows.remove position
    have pending : (fun key => if key ∈ [row.key] then [] else roll.pending key) = left.pending :=
      Roll.pending_remove there shows.proper rfl
    have discharged := shown.discharge own (by simp) locals
      [.notify container .changed, .notify container (.removed position),
        .yield (.list [row.item]), .operating container] (.value .null)
    rw [pending, List.flatMap_singleton,
      Roll.pending_of_mem shows.proper.nodup inside] at discharged
    rw [begins, edited]
    refine Machine.Arrives.carriesOut quiet ?_
    rw [List.append_assoc, ← List.append_nil (Roll.told _ none (.removed _))]
    refine discharged.proceeds fun _ _ shown => ?_
    refine (shown.notify_closed .changed locals _ _).proceeds fun _ _ shown => ?_
    refine (shown.notify_closed (.removed position) locals _ _).proceeds fun last _ shown => ?_
    exact .skip rfl (.refl last) (.here shown)

/-- The last element is taken out of a list as its roll says. -/
theorem Shows.pop (shows : Shows world container realm roll roll.pending none)
    (locals : Variables) (focus : Focus) :
    ((⟨world, locals, [.operating container], focus⟩ : Machine).pop container).CarriesOut world
      container realm locals (roll.remove (roll.rows.length - 1)) := by
  have length : (world.container container).items.length = roll.rows.length := by
    rw [shows.items, Roll.items, List.length_map]
  cases count : roll.rows.length with
  | zero =>
    have begins : (⟨world, locals, [.operating container], focus⟩ : Machine).pop container =
        (⟨world, locals, [.operating container], focus⟩ : Machine).answer (.list []) := by
      simp only [Machine.pop, length, count, shows.direct]
      rfl
    have unchanged : roll.remove (0 - 1) = ⟨.list [], [], roll⟩ := by
      rw [Roll.remove, List.getElem?_eq_none (by omega)]
    rw [begins, unchanged]
    exact shows.answers _ locals focus
  | succ count' =>
    have begins : (⟨world, locals, [.operating container], focus⟩ : Machine).pop container =
        (⟨world, locals, [.operating container], focus⟩ : Machine).removeAt container count' := by
      simp only [Machine.pop, length, count]
    rw [begins]
    exact shows.removeAt count' locals focus

/-- The first element that a predicate accepts is taken out of a list as its roll says. -/
theorem Shows.search (shows : Shows world container realm roll roll.pending none)
    (test : Expression) (rest : List Value) (position : Nat)
    (left : rest = roll.items.drop position) (focus : Focus) :
    ((⟨world, roll.locals, [.operating container], focus⟩ : Machine).search container position
      rest [] test).CarriesOut world container realm roll.locals
        (roll.remove (position + rest.findIdx (roll.accepts test))) := by
  induction rest generalizing position focus with
  | nil =>
    have beyond : roll.items.length ≤ position := List.drop_eq_nil_iff.mp left.symm
    rw [Roll.items, List.length_map] at beyond
    have begins : (⟨world, roll.locals, [.operating container], focus⟩ : Machine).search container
        position [] [] test =
        (⟨world, roll.locals, [.operating container], focus⟩ : Machine).answer (.list []) := by
      simp only [Machine.search, shows.direct]
      rfl
    have unchanged : roll.remove (position + [].findIdx (roll.accepts test)) =
        ⟨.list [], [], roll⟩ := by
      rw [Roll.remove, List.findIdx_nil, Nat.add_zero, List.getElem?_eq_none beyond]
    rw [begins, unchanged]
    exact shows.answers _ roll.locals focus
  | cons item rest ih =>
    let answer := test.evaluate world.held (roll.locals.insertAll [("x", item)])
    have asked : ((⟨world, roll.locals, [.operating container], focus⟩ : Machine).search container
        position (item :: rest) [] test).Reaches
        ((⟨world, roll.locals, [.operating container], .resume (.value answer)⟩ : Machine).verdict
          container position rest [] test answer) := by
      simp only [Machine.search, shows.direct]
      exact ⟨5, rfl⟩
    have truth : answer.truthy = roll.accepts test item := by
      simp only [answer, shows.held, Roll.accepts]
    refine asked.carriesOut ?_
    rw [Machine.verdict, truth, List.findIdx_cons]
    cases accepted : roll.accepts test item with
    | true => exact shows.removeAt position roll.locals _
    | false =>
      have further : rest = roll.items.drop (position + 1) := by
        rw [← List.tail_drop, ← left]
        rfl
      have later := ih (position + 1) further (.resume (.value answer))
      rw [Nat.add_right_comm] at later
      exact later

/-- What waits for all keys of a roll is what its rows say, in order. -/
theorem Roll.flatMap_pending (different : roll.keys.Nodup) :
    roll.keys.flatMap roll.pending = roll.rows.flatMap (·.pending) := by
  rw [keys, List.flatMap_map]
  exact List.flatMap_congr fun row inside => pending_of_mem different inside

/-- Nothing waits for fresh keys. -/
theorem Roll.pending_fresh {left : Roll} {id seq : Nat} {items : List Value}
    (rows : left.rows = fresh id seq items) (key : Key) : left.pending key = [] := by
  rw [pending, rows]
  clear rows
  induction items generalizing seq with
  | nil => rfl
  | cons item items ih =>
    rw [fresh, List.flatMap_cons, ih]
    split
    · rfl
    · rfl

/-- The elements of a list are replaced as its roll says. -/
theorem Shows.replaces (shows : Shows world container realm roll roll.pending none)
    (value : Value) (locals : Variables) (focus : Focus) :
    ((⟨world, locals, [.operating container], focus⟩ : Machine).replace container
      value).CarriesOut world container realm locals
        (roll.replace ((value.items?).getD [])) := by
  let items := (value.items?).getD []
  let left : Roll := { roll with
    nextSeq := roll.nextSeq + items.length
    rows := Roll.fresh roll.id roll.nextSeq items }
  let replaced := (world.replaceKeys container items.length).replaceItems container items
  let event : TraceEvent := .listReplaced roll.id roll.keys.length
  have belongs : (world.container container).realm = realm := shows.belongs
  have shown : Shows (replaced.trace event) container realm left roll.pending none :=
    (shows.replace items).trace event
  have quiet : world.Notes [] (replaced.trace event) := by
    have before : world.Notes [] (world.modifyContents container (.replaceKeys items.length)) :=
      .of_journal rfl rfl
    have after : (world.replaceKeys container items.length).Notes [] replaced :=
      .of_journal rfl rfl
    exact ((before.trans (World.notes_traceAll _ _)).trans after).trans (World.notes_trace _ _)
  have begins : (⟨world, locals, [.operating container], focus⟩ : Machine).replace container
      value = ⟨replaced.trace event, locals, [.discharge realm roll.keys,
        .notify container .changed, .operating container], .resume (.value .null)⟩ := by
    simp only [Machine.replace, Machine.replacement, shows.direct, shows.isBorrowed, shows.keys,
      belongs]
    rfl
  have own (key : Key) (inside : key ∈ roll.keys) : key.container = left.id :=
    (shows.proper.allotted key inside).1
  have discharged := shown.discharge own shows.proper.nodup locals
    [.notify container .changed, .operating container] (.value .null)
  have pending : (fun key => if key ∈ roll.keys then [] else roll.pending key) = left.pending := by
    funext key
    have none : left.pending key = [] := Roll.pending_fresh rfl key
    rw [none]
    split
    · rfl
    · next absent => exact Roll.pending_of_not_mem absent
  rw [pending, Roll.flatMap_pending shows.proper.nodup] at discharged
  rw [begins]
  refine Machine.Arrives.carriesOut quiet ?_
  exact discharged.proceeds fun _ _ shown => shown.notify_closed .changed locals _ _

/-- A reader that lets go at once has not been there. -/
theorem World.release_borrow (world : World) (container : ContainerRef) :
    (world.borrow container).release container = world := by
  have same : world.containers.modify container (Container.release ∘ Container.borrow) =
      world.containers :=
    Table.modify_eq_self fun held _ => Container.release_borrow held
  simp only [release, borrow, modifyContainer, Table.modify_modify, same]

/-- Names hold the same while somebody reads. -/
theorem World.held_borrow (world : World) (container : ContainerRef) :
    (world.borrow container).held = world.held := by
  funext name
  unfold held
  have names : (world.borrow container).names = world.names := rfl
  rw [names]
  cases world.names.find? name with
  | none => rfl
  | some other =>
    exact container_modify_keeps (fun held => held.value = (world.container other).value)
      (fun same => same) rfl

/-- The elements of a list are replaced by the answer of a setter as its roll says. -/
theorem Shows.set (shows : Shows world container realm roll roll.pending none)
    (answer : Expression) (focus : Focus) :
    ((⟨world, roll.locals, [.operating container], focus⟩ : Machine).set container []
      answer).CarriesOut world container realm roll.locals
        (roll.replace (roll.answered answer)) := by
  let value := answer.evaluate roll.held (roll.locals.insertAll [("v", .list roll.items)])
  have asked : ((⟨world, roll.locals, [.operating container], focus⟩ : Machine).set container []
      answer).Reaches
      ((⟨world, roll.locals, [.operating container], .resume (.value value)⟩ : Machine).replace
        container value) := by
    have setter : ((⟨world, roll.locals, [.operating container], focus⟩ : Machine).set container []
        answer).Reaches
        ((⟨(world.borrow container).release container, roll.locals, [.operating container],
          .resume (.value (answer.evaluate (world.borrow container).held
            (roll.locals.insertAll [("v", .list roll.items)])))⟩ : Machine).replace container
          (answer.evaluate (world.borrow container).held
            (roll.locals.insertAll [("v", .list roll.items)]))) := by
      have held : (world.container container).value = .list roll.items := by
        rw [Container.value, shows.contents]
        rfl
      simp only [Machine.set, shows.direct, shows.contents, Machine.setterTarget, held]
      exact ⟨6, rfl⟩
    rw [world.release_borrow, world.held_borrow, shows.held] at setter
    exact setter
  exact asked.carriesOut (shows.replaces value roll.locals _)

/-- A handle is no part of what the list is. -/
theorem Shows.keepHandle {waiting : Key → List Listener} {active : Option Key}
    (shows : Shows world container realm roll waiting active) (name : String) (handle : Handle) :
    Shows (world.keepHandle name handle) container realm roll waiting active := by
  unfold World.keepHandle
  split
  · exact shows
  · exact { shows with }

/-- A listener is subscribed as the roll says. -/
theorem Shows.subscribes (shows : Shows world container realm roll roll.pending none)
    (tag : String) (channel : Channel) (body : List Chore) (focus : Focus) :
    ((⟨world, roll.locals, [.operating container], focus⟩ : Machine).subscribe container
      (.literal (.text tag)) channel (Chore.action.actions body)).CarriesOut world container realm
        roll.locals (roll.perform (.subscribe tag channel body)) := by
  let listener : Listener := ⟨tag, body, roll.locals⟩
  let handle : Handle := ⟨roll.nextSubscription, container, channel, .direct⟩
  have number : world.nextSubscriptionId (world.realmOf container) = roll.nextSubscription := by
    rw [shows.belongs, shows.numbered]
  have subscribed := (shows.subscribe channel listener).keepHandle tag handle
  have begins : (⟨world, roll.locals, [.operating container], focus⟩ : Machine).subscribe container
      (.literal (.text tag)) channel (Chore.action.actions body) =
        ⟨(world.subscribe container channel listener.callback).keepHandle tag handle, roll.locals,
          [.operating container], .resume (.value (.nat roll.nextSubscription))⟩ := by
    simp only [Machine.subscribe, shows.direct, number]
    rfl
  have same : ((world.subscribe container channel listener.callback).keepHandle tag
      handle).journal = world.journal := by
    unfold World.keepHandle
    split
    · rfl
    · rfl
  rw [begins]
  exact ⟨_, ⟨1, rfl⟩, same ▸ .refl _, subscribed⟩

/-- Every operation on the list carries out its edit. -/
theorem Shows.operate (shows : Shows world container realm roll roll.pending none) (edit : Edit)
    (focus : Focus) :
    ((⟨world, roll.locals, [.operating container], focus⟩ : Machine).operate container
      edit.operation).CarriesOut world container realm roll.locals (roll.perform edit) := by
  have isList : (world.container container).contents.isList = true := by
    rw [shows.contents]
    rfl
  cases edit with
  | subscribe tag channel body =>
    simp only [Edit.operation, Machine.operate, isList, if_true, Option.getD_some]
    exact shows.subscribes tag channel body focus
  | push item =>
    have length : (world.container container).items.length = roll.rows.length := by
      rw [shows.items, Roll.items, List.length_map]
    have inserted := shows.insertAt roll.rows.length item roll.locals focus
    rw [← length] at inserted
    rw [Roll.perform, ← length]
    exact inserted
  | insertAt position item => exact shows.insertAt position item roll.locals focus
  | pop => exact shows.pop roll.locals focus
  | removeAt position => exact shows.removeAt position roll.locals focus
  | findAndRemove test =>
    have found := shows.search test roll.items 0 rfl focus
    rw [Nat.zero_add] at found
    simp only [Edit.operation, Machine.operate, shows.items]
    exact found
  | set answer => exact shows.set answer focus

/-- Performing an edit on the list of the roll's name begins its operation. -/
theorem Shows.start_eq {waiting : Key → List Listener} {active : Option Key}
    (shows : Shows world container realm roll waiting active) (edit : Edit) (locals : Variables) :
    Machine.start world locals (edit.action roll.name) =
      (⟨world, locals, [.operating container], .resume (.value .null)⟩ : Machine).operate container
        edit.operation := by
  have known : edit.operation.isKnown (world.container container).surface
      (world.container container).contents.isList = true := by
    rw [shows.direct, shows.contents]
    cases edit <;> rfl
  have begins : Machine.start world locals (edit.action roll.name) =
      (⟨world, locals, [], .resume (.value .null)⟩ : Machine).operateOn roll.name
        edit.operation := rfl
  simp only [begins, Machine.operateOn, shows.named, known, if_true]
  rfl

end

end Observables
