import IndexBench.Proofs.Run.Kinds

/-!
# What scripts print

A console that takes everything shows what a script prints.  One with little room
shows as much of it as there is room for: the script runs as it would have until a
write does not fit, and that write fails.

Main definitions:

- `Script.printed` is what a script prints.
- `World.limit` leaves a console room for some more bytes.
- `Printing.Ends` says that a printing script ends well unless the console ends it.

Main results:

- Theorem `Script.shown_run`: a console that takes everything shows what is printed.
- Theorem `Script.run_limit_of_le`: a console with enough room makes no difference.
- Theorem `Script.trace_limit_of_lt`: on any other, one write fails and the script has
  run as before up to there.
- Theorem `Script.shown_run_limit`: a console shows what is printed up to its room.
-/

namespace IndexBench

/-- An action of the kind of writes is one. -/
theorem Action.exists_write {action : Action} (h : action.kind = .write) :
    ∃ text, action = .write text := by
  cases action with
  | write text => exact ⟨text, rfl⟩
  | note event => cases event <;> cases h
  | _ => cases h

/-! ## Consoles of worlds -/

namespace World

variable {σ : Type}

/-- A world with another console. -/
def onto (world : World σ) (console : Console) : World σ :=
  { world with console := console }

/-- A world whose console takes some more bytes and then is full. -/
def limit (world : World σ) (room : Nat) : World σ :=
  world.onto ⟨world.console.shown, some room⟩

/-- Whether the console of a world takes everything. -/
def Unlimited (world : World σ) : Prop :=
  world.console.room = none

/-- Only a write depends on the console. -/
theorem perform_onto {action : Action} (h : action.kind ≠ .write) (env : Environment σ)
    (world : World σ) (console : Console) :
    (world.onto console).perform env action =
      ((world.perform env action).1, (world.perform env action).2.onto console) := by
  cases action with
  | write text => exact absurd rfl h
  | measure request =>
      simp only [perform, onto]
      split <;> rfl
  | save path bytes =>
      simp only [perform, onto]
      split <;> rfl
  | _ => rfl

/-- Only a write changes the console. -/
theorem console_perform {action : Action} (h : action.kind ≠ .write) (env : Environment σ)
    (world : World σ) : (world.perform env action).2.console = world.console := by
  have honto := perform_onto h env world world.console
  exact congrArg (fun performed => performed.2.console) honto

/-- A console that takes everything takes a text. -/
theorem Unlimited.perform_write {world : World σ} (h : world.Unlimited) (env : Environment σ)
    (text : String) :
    world.perform env (.write text) =
      (.ok (), world.onto ⟨world.console.shown ++ Utf8.encode text, none⟩) := by
  have hroom : world.console.room = none := h
  simp [perform, Console.write, onto, hroom]

/-- A console that takes everything goes on doing so. -/
theorem Unlimited.perform {world : World σ} (h : world.Unlimited) (env : Environment σ)
    (action : Action) : (world.perform env action).2.Unlimited := by
  by_cases hwrite : action.kind = .write
  · obtain ⟨text, rfl⟩ := Action.exists_write hwrite
    rw [h.perform_write]
    rfl
  · rw [Unlimited, console_perform hwrite]
    exact h

/-- A console takes a text that it has room for. -/
theorem perform_write_limit_of_le {text : String} {room : Nat}
    (h : (Utf8.encode text).length ≤ room) (env : Environment σ) (world : World σ) :
    (world.limit room).perform env (.write text) =
      (.ok (), (world.onto ⟨world.console.shown ++ Utf8.encode text, none⟩).limit
        (room - (Utf8.encode text).length)) := by
  simp [perform, Console.write, onto, limit, h]

/-- A console takes as much of a longer text as it has room for, and then is full. -/
theorem perform_write_limit_of_lt {text : String} {room : Nat}
    (h : room < (Utf8.encode text).length) (env : Environment σ) (world : World σ) :
    (world.limit room).perform env (.write text) =
      (.error Console.full,
        world.onto ⟨world.console.shown ++ (Utf8.encode text).take room, some 0⟩) := by
  have hlong : ¬(Utf8.encode text).length ≤ room := by omega
  simp [perform, Console.write, onto, limit, hlong]

/-- A full console shows nothing more. -/
theorem console_perform_of_full {world : World σ} (h : world.console.room = some 0)
    (env : Environment σ) (action : Action) :
    (world.perform env action).2.console = world.console := by
  by_cases hwrite : action.kind = .write
  · obtain ⟨text, rfl⟩ := Action.exists_write hwrite
    obtain ⟨state, calls, connections, ⟨shown, room⟩, events, executions⟩ := world
    obtain rfl : room = some 0 := h
    simp only [World.perform, Console.write]
    split
    · rename_i hempty
      rw [List.length_eq_zero_iff.mp (Nat.le_zero.mp hempty), List.append_nil]
      rfl
    · simp
  · exact console_perform hwrite env world

end World

/-! ## Printed text -/

/-- What a deed puts on a console that takes everything. -/
def Deed.printed : Deed → String
  | ⟨.write text, .ok ()⟩ => text
  | _ => ""

/-- What is no write prints nothing. -/
theorem Deed.printed_of_kind {deed : Deed} (h : deed.action.kind ≠ .write) :
    deed.printed = "" := by
  obtain ⟨action, answer⟩ := deed
  cases action with
  | write text => exact absurd rfl h
  | _ => rfl

namespace Script

variable {σ α β : Type}

/-- What a script prints in a world. -/
def printed (env : Environment σ) (script : Script α) (world : World σ) : String :=
  String.join ((script.trace env world).map Deed.printed)

/-- Number of bytes that a script prints in a world. -/
def printedSize (env : Environment σ) (script : Script α) (world : World σ) : Nat :=
  (Utf8.encode (script.printed env world)).length

@[simp]
theorem printed_pure (env : Environment σ) (value : α) (world : World σ) :
    (pure value : Script α).printed env world = "" :=
  rfl

/-- A script prints what its first action prints and then the rest. -/
theorem printed_step (env : Environment σ) (action : Action) (next : action.Answer → Script α)
    (world : World σ) :
    (step action next).printed env world =
      Deed.printed ⟨action, (world.perform env action).1⟩ ++
        (next (world.perform env action).1).printed env (world.perform env action).2 := by
  rw [printed, trace, List.map_cons, String.join_cons]
  rfl

/-- Scripts in a row print one after the other. -/
@[simp]
theorem printed_bind (env : Environment σ) (script : Script α) (f : α → Script β)
    (world : World σ) :
    (script >>= f).printed env world =
      script.printed env world ++
        (f (script.run env world).1).printed env (script.run env world).2 := by
  simp [printed, String.join_append]

/-- A script that does not write prints nothing. -/
theorem Uses.printed_eq {kinds : List Action.Kind} {script : Script α} (h : script.Uses kinds)
    (hkinds : .write ∉ kinds) (env : Environment σ) (world : World σ) :
    script.printed env world = "" := by
  have hdeed : ∀ deed ∈ script.trace env world, deed.printed = "" := by
    intro deed hdeed
    refine Deed.printed_of_kind fun hwrite => hkinds ?_
    rw [← hwrite]
    exact h.kind_mem env world hdeed
  rw [printed, List.map_congr_left hdeed]
  generalize script.trace env world = deeds
  induction deeds with
  | nil => rfl
  | cons deed deeds ih =>
      rw [List.map_cons, String.join_cons, ih]
      rfl

/-- A world whose console takes everything ends as one. -/
theorem unlimited_run (env : Environment σ) (script : Script α) {world : World σ}
    (h : world.Unlimited) : (script.run env world).2.Unlimited := by
  induction script generalizing world with
  | done value => exact h
  | step action next ih => exact ih _ (h.perform env action)

/-- What is written in a world whose console takes everything is printed. -/
theorem shown_perform (env : Environment σ) (action : Action) {world : World σ}
    (h : world.Unlimited) :
    (world.perform env action).2.console.shown =
      world.console.shown ++
        Utf8.encode (Deed.printed ⟨action, (world.perform env action).1⟩) := by
  cases action with
  | write text =>
      rw [h.perform_write]
      rfl
  | note event => exact (List.append_nil _).symm
  | measure request =>
      rw [World.console_perform (by simp [Action.kind])]
      exact (List.append_nil _).symm
  | save path bytes =>
      rw [World.console_perform (by simp [Action.kind])]
      exact (List.append_nil _).symm
  | _ => exact (List.append_nil _).symm

/-- A console that takes everything shows what is printed. -/
theorem shown_run (env : Environment σ) (script : Script α) {world : World σ}
    (h : world.Unlimited) :
    (script.run env world).2.console.shown =
      world.console.shown ++ Utf8.encode (script.printed env world) := by
  induction script generalizing world with
  | done value => exact (List.append_nil _).symm
  | step action next ih =>
      rw [printed_step, Utf8.encode_append, ← List.append_assoc, ← shown_perform env action h]
      exact ih _ (h.perform env action)

/-- A console that takes everything takes a text. -/
theorem run_write (env : Environment σ) (text : String) {world : World σ}
    (h : world.Unlimited) :
    (write text).run env world =
      (.ok (), world.onto ⟨world.console.shown ++ Utf8.encode text, none⟩) :=
  h.perform_write env text

/-- A text that is written is printed. -/
theorem printed_write (env : Environment σ) (text : String) {world : World σ}
    (h : world.Unlimited) : (write text).printed env world = text := by
  change String.join [Deed.printed ⟨.write text, (world.perform env (.write text)).1⟩] = text
  rw [h.perform_write, String.join_cons, String.join_nil, String.append_empty]
  rfl

/-! ## Consoles with little room -/

/-- A full console shows nothing more. -/
theorem shown_run_of_full (env : Environment σ) (script : Script α) {world : World σ}
    (h : world.console.room = some 0) :
    (script.run env world).2.console.shown = world.console.shown := by
  induction script generalizing world with
  | done value => rfl
  | step action next ih =>
      have hconsole := World.console_perform_of_full h env action
      have hfull : (world.perform env action).2.console.room = some 0 := by rw [hconsole, h]
      have hrest := ih (world.perform env action).1 hfull
      rw [hconsole] at hrest
      exact hrest

/-- An action that fits is performed as on a console that takes everything. -/
theorem perform_limit_of_le (env : Environment σ) (action : Action) {world : World σ}
    (h : world.Unlimited) {room : Nat}
    (hroom : (Utf8.encode (Deed.printed ⟨action, (world.perform env action).1⟩)).length ≤ room) :
    (world.limit room).perform env action =
      ((world.perform env action).1, (world.perform env action).2.limit
        (room - (Utf8.encode (Deed.printed ⟨action, (world.perform env action).1⟩)).length)) := by
  by_cases hwrite : action.kind = .write
  · obtain ⟨text, rfl⟩ := Action.exists_write hwrite
    rw [h.perform_write] at hroom ⊢
    exact World.perform_write_limit_of_le hroom env world
  · rw [World.limit, World.perform_onto hwrite, Deed.printed_of_kind hwrite, Utf8.encode_empty,
      List.length_nil, Nat.sub_zero, World.limit, World.console_perform hwrite]

/-- An action that does not fit is a write, and fails. -/
theorem perform_limit_of_lt (env : Environment σ) (action : Action) {world : World σ}
    (h : world.Unlimited) {room : Nat}
    (hroom : room < (Utf8.encode (Deed.printed ⟨action, (world.perform env action).1⟩)).length) :
    ∃ text, (⟨action, (world.perform env action).1⟩ : Deed) = ⟨.write text, .ok ()⟩ ∧
      (⟨action, ((world.limit room).perform env action).1⟩ : Deed) =
        ⟨.write text, .error Console.full⟩ ∧
      ((world.limit room).perform env action).2 =
        world.onto ⟨world.console.shown ++ (Utf8.encode text).take room, some 0⟩ := by
  by_cases hwrite : action.kind = .write
  · obtain ⟨text, rfl⟩ := Action.exists_write hwrite
    rw [h.perform_write] at hroom ⊢
    have hlong : room < (Utf8.encode text).length := hroom
    rw [World.perform_write_limit_of_lt hlong]
    exact ⟨text, rfl, rfl, rfl⟩
  · rw [Deed.printed_of_kind hwrite] at hroom
    exact absurd hroom (Nat.not_lt_zero room)

/-- A console with enough room makes no difference. -/
theorem run_limit_of_le (env : Environment σ) (script : Script α) {world : World σ}
    (h : world.Unlimited) {room : Nat} (hroom : script.printedSize env world ≤ room) :
    script.run env (world.limit room) =
        ((script.run env world).1,
          (script.run env world).2.limit (room - script.printedSize env world)) ∧
      script.trace env (world.limit room) = script.trace env world := by
  induction script generalizing world room with
  | done value => exact ⟨rfl, rfl⟩
  | step action next ih =>
      rw [printedSize, printed_step, Utf8.encode_append, List.length_append] at hroom ⊢
      have hfits : (Utf8.encode (Deed.printed ⟨action, (world.perform env action).1⟩)).length ≤
          room := by omega
      have hperform := perform_limit_of_le env action h hfits
      have hrest := ih (world.perform env action).1 (h.perform env action)
        (Nat.le_sub_of_add_le' hroom)
      simp only [run, trace, hperform]
      rw [hrest.1, hrest.2, Nat.sub_sub]
      exact ⟨rfl, rfl⟩

/-- Room for what a script prints and some more leaves it with this more. -/
theorem run_limit_add (env : Environment σ) (script : Script α) {world : World σ}
    (h : world.Unlimited) (room : Nat) :
    script.run env (world.limit (script.printedSize env world + room)) =
        ((script.run env world).1, (script.run env world).2.limit room) ∧
      script.trace env (world.limit (script.printedSize env world + room)) =
        script.trace env world := by
  have hrun := run_limit_of_le env script h (Nat.le_add_right (script.printedSize env world) room)
  rw [Nat.add_sub_cancel_left] at hrun
  exact hrun

/-- A script that does not write takes no room. -/
theorem Uses.run_limit {kinds : List Action.Kind} {script : Script α} (h : script.Uses kinds)
    (hkinds : .write ∉ kinds) (env : Environment σ) {world : World σ} (hworld : world.Unlimited)
    (room : Nat) :
    script.run env (world.limit room) =
      ((script.run env world).1, (script.run env world).2.limit room) := by
  have hsize : script.printedSize env world = 0 := by
    rw [printedSize, h.printed_eq hkinds]
    rfl
  rw [(run_limit_of_le env script hworld (by omega)).1, hsize, Nat.sub_zero]

/-- On a console with too little room a script runs as on one that takes everything, up
to the write that does not fit. -/
theorem trace_limit_of_lt (env : Environment σ) (script : Script α) {world : World σ}
    (h : world.Unlimited) {room : Nat} (hroom : room < script.printedSize env world) :
    ∃ before text after rest,
      script.trace env world = before ++ ⟨.write text, .ok ()⟩ :: after ∧
        script.trace env (world.limit room) =
          before ++ ⟨.write text, .error Console.full⟩ :: rest ∧
        (Utf8.encode (String.join (before.map Deed.printed))).length ≤ room ∧
        room < (Utf8.encode (String.join (before.map Deed.printed))).length +
          (Utf8.encode text).length := by
  induction script generalizing world room with
  | done value => exact absurd hroom (Nat.not_lt_zero room)
  | step action next ih =>
      rw [printedSize, printed_step, Utf8.encode_append, List.length_append] at hroom
      by_cases hfits : (Utf8.encode
          (Deed.printed ⟨action, (world.perform env action).1⟩)).length ≤ room
      · obtain ⟨before, text, after, rest, hfull, hcut, hstart, hend⟩ :=
          ih (world.perform env action).1 (h.perform env action)
            (Nat.sub_lt_left_of_lt_add hfits hroom)
        refine ⟨⟨action, (world.perform env action).1⟩ :: before, text, after, rest, ?_, ?_, ?_⟩
        · rw [trace, hfull]
          rfl
        · rw [trace, perform_limit_of_le env action h hfits]
          exact congrArg _ hcut
        · rw [List.map_cons, String.join_cons, Utf8.encode_append, List.length_append]
          omega
      · have hlong := Nat.lt_of_not_le hfits
        obtain ⟨text, hwritten, hfailed, -⟩ := perform_limit_of_lt env action h hlong
        refine ⟨[], text, (next (world.perform env action).1).trace env
            (world.perform env action).2,
          (next ((world.limit room).perform env action).1).trace env
            ((world.limit room).perform env action).2, ?_, ?_, Nat.zero_le _, ?_⟩
        · rw [trace, hwritten]
          rfl
        · rw [trace, hfailed]
          rfl
        · rw [hwritten] at hlong
          have htext : room < (Utf8.encode text).length := hlong
          simpa using htext

/-- A console shows what is printed up to its room. -/
theorem shown_run_limit (env : Environment σ) (script : Script α) {world : World σ}
    (h : world.Unlimited) (room : Nat) :
    (script.run env (world.limit room)).2.console.shown =
      world.console.shown ++ (Utf8.encode (script.printed env world)).take room := by
  induction script generalizing world room with
  | done value => simp [run, printed, trace, World.limit, World.onto]
  | step action next ih =>
      rw [printed_step, Utf8.encode_append, run]
      by_cases hfits : (Utf8.encode
          (Deed.printed ⟨action, (world.perform env action).1⟩)).length ≤ room
      · rw [perform_limit_of_le env action h hfits]
        have hrest := ih (world.perform env action).1 (h.perform env action)
          (room - (Utf8.encode (Deed.printed ⟨action, (world.perform env action).1⟩)).length)
        rw [shown_perform env action h, List.append_assoc] at hrest
        rw [List.take_append, List.take_of_length_le hfits]
        exact hrest
      · have hlong := Nat.lt_of_not_le hfits
        obtain ⟨text, hwritten, -, hworld⟩ := perform_limit_of_lt env action h hlong
        have htext : Deed.printed ⟨action, (world.perform env action).1⟩ = text :=
          congrArg Deed.printed hwritten
        rw [htext] at hlong ⊢
        -- whatever comes after the write that fails, the console is full
        rw [shown_run_of_full env _ (by rw [hworld]; rfl), hworld,
          List.take_append_of_le_length (Nat.le_of_lt hlong)]
        rfl

end Script

/-! ## Printing scripts -/

/-- Whether a printing script ends well unless the console ends it, and does not end
well on a console that has too little room for it. -/
def Printing.Ends {α : Type} (script : Printing α) : Prop :=
  ∀ (σ : Type) (env : Environment σ) (world : World σ), world.Unlimited →
    (∃ value, (script.run.run env world).1 = .ok value) ∧
      ∀ room < script.run.printedSize env world,
        (script.run.run env (world.limit room)).1 = .error Console.full

namespace Printing.Ends

variable {α β : Type}

/-- A value ends well. -/
theorem pure (value : α) : (Pure.pure value : Printing α).Ends :=
  fun _ _ _ _ => ⟨⟨value, rfl⟩, fun room hroom => absurd hroom (Nat.not_lt_zero room)⟩

/-- Printing ends with the console. -/
theorem print (text : String) : (IndexBench.print text).Ends := by
  intro σ env world h
  refine ⟨⟨(), congrArg Prod.fst (Script.run_write env text h)⟩, fun room hroom => ?_⟩
  have hprinted : (IndexBench.print text).run.printed env world = text :=
    Script.printed_write env text h
  rw [Script.printedSize, hprinted] at hroom
  exact congrArg Prod.fst (World.perform_write_limit_of_lt hroom env world)

/-- What does not write ends well. -/
theorem lift {kinds : List Action.Kind} {script : Script α} (h : script.Uses kinds)
    (hkinds : .write ∉ kinds) : (liftM script : Printing α).Ends := by
  intro σ env world _
  refine ⟨⟨(script.run env world).1, ?_⟩, fun room hroom => ?_⟩
  · exact congrArg Prod.fst (Script.run_map env Except.ok script world)
  · have hsize : (liftM script : Printing α).run.printedSize env world = 0 := by
      change (Utf8.encode ((script >>= fun value => Pure.pure (Except.ok value)).printed env
        world)).length = 0
      rw [Script.printed_bind, h.printed_eq hkinds]
      rfl
    omega

/-- Printing scripts in a row end with the console. -/
theorem bind {script : Printing α} {f : α → Printing β} (h : script.Ends)
    (hf : ∀ value, (f value).Ends) : (script >>= f).Ends := by
  intro σ env world hworld
  obtain ⟨⟨value, hvalue⟩, hcut⟩ := h σ env world hworld
  obtain ⟨hlater, hcutLater⟩ := hf value σ env _ (Script.unlimited_run env script.run hworld)
  rw [ExceptT.run_bind]
  refine ⟨?_, fun room hroom => ?_⟩
  · rw [Script.run_bind, hvalue]
    exact hlater
  · rw [Script.printedSize, Script.printed_bind, hvalue, Utf8.encode_append,
      List.length_append] at hroom
    rw [Script.run_bind]
    by_cases hfits : script.run.printedSize env world ≤ room
    · rw [(Script.run_limit_of_le env script.run hworld hfits).1, hvalue]
      exact hcutLater _ (Nat.sub_lt_left_of_lt_add hfits hroom)
    · rw [hcut room (Nat.lt_of_not_le hfits)]
      rfl

end Printing.Ends
end IndexBench
