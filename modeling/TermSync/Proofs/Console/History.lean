import TermSync.Console.App
import TermSync.Proofs.Session.Attachment

/-!
# What the console shows of an instance's history

Output that comes in before an instance is shown for the first time waits on its screen, and the
widget that is then attached draws it. The console shows what a widget draws only while its
instance has the keyboard, and a new widget draws before it gets the keyboard. So the history is
shown only if an earlier instance of the same name had the keyboard last; otherwise it is lost.

`App.run` follows what reaches the session, whoever brings it; the program's own moves are of this
kind (`receive_eq`, `load_eq`, `command_eq` and `line_eq`). Main statements: `display_run` (what a
run shows), `focused_run` (who has the keyboard), and `printed_of_attach` (what is shown when a
widget is attached).
-/

namespace TermSync.Console

open Rest (SessionRecord)
open Session
open Terminal (Call Geometry Screen Widget lastFocus lastFocus_append)
open Text (Bytes)
open Wire (Inbound)

/-- The bytes that go to standard output. -/
def printed (outputs : List Output) : Bytes :=
  outputs.flatMap fun
    | .stdout data => data
    | .stderr _ => []

/-! ## The display -/

namespace Display

variable (d : Display)

theorem calls_append (as bs : List Call) :
    d.calls (as ++ bs) =
      (((d.calls as).1.calls bs).1, (d.calls as).2 ++ ((d.calls as).1.calls bs).2) := by
  induction as generalizing d with
  | nil => rfl
  | cons c as ih => simp [calls, ih, List.append_assoc]

/-- To write changes nothing about the display. -/
theorem call_write (w : Widget) (data : Bytes) : (d.call ⟨w, .write data⟩).1 = d := by
  simp only [call]
  split
  · rfl
  · split <;> rfl

private theorem builder_call (c : Call) : (d.call c).1.builder = d.builder := by
  obtain ⟨w, action⟩ := c
  cases action with
  | write data => rw [call_write]
  | focus =>
    simp only [call]
    split <;> rfl
  | _ => rfl

/-- The builder's console keeps its widget. -/
theorem builder_calls (cs : List Call) : (d.calls cs).1.builder = d.builder := by
  induction cs generalizing d with
  | nil => rfl
  | cons c cs ih => exact (ih (d.call c).1).trans (d.builder_call c)

/-- To drop widgets shows nothing. -/
theorem calls_of_drops {cs : List Call} (h : ∀ c ∈ cs, c.action = .drop) :
    d.calls cs = (d, []) := by
  induction cs with
  | nil => rfl
  | cons c cs ih =>
    have hc : d.call c = (d, []) := by simp [call, h c List.mem_cons_self]
    simp [calls, hc, ih fun e he => h e (List.mem_cons_of_mem c he)]

private theorem focused_call {c : Call} (h : c.action = .focus → d.builder ≠ some c.widget) :
    (d.call c).1.focused = ((lastFocus [c]).map Widget.name).or d.focused := by
  obtain ⟨w, action⟩ := c
  cases action with
  | focus => simp [call, lastFocus, h rfl]
  | write data =>
    rw [call_write]
    rfl
  | _ => rfl

/-- The instance has the keyboard whose widget got it last. -/
theorem focused_calls {cs : List Call}
    (h : ∀ c ∈ cs, c.action = .focus → d.builder ≠ some c.widget) :
    (d.calls cs).1.focused = ((lastFocus cs).map Widget.name).or d.focused := by
  induction cs generalizing d with
  | nil => rfl
  | cons c cs ih =>
    have hfirst := d.focused_call (h c List.mem_cons_self)
    have hrest := ih (d.call c).1 fun e he hf => by
      rw [builder_call]
      exact h e (List.mem_cons_of_mem c he) hf
    rw [← List.singleton_append, lastFocus_append, Option.map_or, Option.or_assoc, ← hfirst]
    exact hrest

/-- A widget that is opened draws the history, and gets the keyboard after that. So the history is
shown if its name has the keyboard already. -/
theorem printed_opening {w : Widget} (hb : d.builder ≠ some w) (s : Screen)
    (geometry : Option Geometry) :
    printed (d.calls (s.openingCalls w geometry ++ [⟨w, .focus⟩])).2 =
        (if d.focused = some w.name then s.backlog else []) ∧
      (d.calls (s.openingCalls w geometry ++ [⟨w, .focus⟩])).1.focused = some w.name := by
  have hfocus : d.call ⟨w, .focus⟩ =
      ({ d with focused := some w.name }, [Output.line ("--- " ++ w.name ++ " ---")]) := by
    simp [call, hb]
  have hwrite : d.call ⟨w, .write s.backlog⟩ =
      (d, if d.focused = some w.name then [.stdout s.backlog] else []) := by
    by_cases hf : d.focused = some w.name <;> simp [call, hb, hf]
  have hmount : d.call ⟨w, .mount⟩ = (d, []) := rfl
  have hresize (g : Geometry) : d.call ⟨w, .resize g⟩ = (d, []) := rfl
  unfold Screen.openingCalls
  by_cases hf : d.focused = some w.name <;> by_cases hback : s.backlog = [] <;> cases geometry <;>
    simp [calls, hmount, hresize, hwrite, hfocus, hf, hback, printed, Output.line]

end Display

/-! ## The program -/

namespace App

/-- Something reaches the session that the program follows. -/
def respond (a : App) (x : Stimulus) : Move := a.absorb (a.state.respond x)

/-- What reaches the session, one thing after the other. -/
def run (a : App) : List Stimulus → Move
  | [] => { app := a }
  | x :: xs =>
    let m := a.respond x
    let n := m.app.run xs
    { app := n.app, outputs := m.outputs ++ n.outputs, effects := m.effects ++ n.effects }

private theorem respond_idle {a : App} {x : Stimulus}
    (h : a.state.respond x = { state := a.state }) : a.respond x = { app := a } := by
  rw [respond, h]
  simp [absorb, Effect.notices, Display.calls]

theorem receive_eq (a : App) (e : Inbound) : a.receive e = a.respond (.inbound e) := by
  unfold receive
  split
  · next ha => rw [respond, State.respond, if_pos ha]
  · next ha => exact (respond_idle (by rw [State.respond, if_neg ha])).symm

theorem load_eq {a : App} {answer : Except Failure SessionRecord} {m : Move}
    (h : a.load answer = .ok m) : m = a.respond (.bootstrap answer) := by
  unfold load at h
  split at h
  · next t ht =>
    cases h
    have he := Work.bootstrap_eq_ok ht
    simp [respond, State.respond, Step.orStay, Step.attempt, he]
  · cases h

/-- A command reaches the session; if it is refused, the reason is said and nothing happens. -/
theorem command_eq (a : App) (key : String) (c : Command) :
    (a.command key c).app = (a.respond (.command key c)).app ∧
      printed (a.command key c).outputs = printed (a.respond (.command key c)).outputs := by
  unfold command
  rw [Work.on_execute]
  cases he : a.state.execute key c with
  | ok t => simp [respond, State.respond, Step.orStay, Step.attempt, he]
  | error e =>
    have hidle : a.respond (.command key c) = { app := a } :=
      respond_idle (by simp [State.respond, Step.orStay, Step.attempt, he])
    have habsorb : a.absorb { state := a.state } = { app := a } := by
      simp [absorb, Effect.notices, Display.calls]
    rw [hidle]
    simp [habsorb, printed, Output.line]

/-- A line that is typed is a command to the session, or else it is answered on standard error and
nothing happens. -/
theorem line_eq (a : App) (key typed : String) :
    (∃ c, (a.line key typed).app = (a.respond (.command key c)).app ∧
      printed (a.line key typed).outputs = printed (a.respond (.command key c)).outputs) ∨
      ((a.line key typed).app = a ∧ printed (a.line key typed).outputs = []) := by
  unfold line
  cases LineAction.ofLine typed a.image with
  | command c => exact .inl ⟨c, a.command_eq key c⟩
  | list => exact .inr ⟨rfl, by simp [printed, Output.line]⟩
  | input text =>
    cases a.display.focused with
    | some name => exact .inl ⟨_, a.command_eq key _⟩
    | none => exact .inr ⟨rfl, rfl⟩
  | unknown text => exact .inr ⟨rfl, rfl⟩

/-! ## A run of the program -/

/-- The program follows the session. -/
theorem state_run (a : App) (xs : List Stimulus) :
    (a.run xs).app.state = (a.state.run xs).state := by
  induction xs generalizing a with
  | nil => rfl
  | cons x xs ih => exact ih (a.respond x).app

/-- What a run shows is what the display makes of the calls of the session. -/
theorem display_run (a : App) (xs : List Stimulus) :
    ((a.run xs).app.display, (a.run xs).outputs) =
      a.display.calls (Effect.calls (a.state.run xs).effects) := by
  induction xs generalizing a with
  | nil => rfl
  | cons x xs ih =>
    rw [State.run_cons, Step.andThen, Effect.calls_append, Display.calls_append]
    exact congrArg (fun shown => (shown.1, (a.respond x).outputs ++ shown.2)) (ih (a.respond x).app)

/-! ## From the beginning -/

section

variable (id : String) (setup : Setup) (image : Option String) (xs : List Stimulus)

private theorem coherent_initial : (initial id setup image).state.Coherent :=
  (State.Coherent.initial id setup).respond .attachBuilder

/-- The builder's console has the first number. -/
private theorem numberedFrom_initial : State.NumberedFrom 1 (initial id setup image).state where
  next := Nat.le_refl 1
  screens name w hw := by
    obtain ⟨i, hi, -⟩ := State.exists_of_screen hw
    cases hi

private theorem builder_run :
    ((initial id setup image).run xs).app.display.builder = some { name := State.builderName } := by
  have hd := congrArg Prod.fst (display_run (initial id setup image) xs)
  rw [show ((initial id setup image).run xs).app.display = _ from hd, Display.builder_calls]
  rfl

/-- The instance has the keyboard whose widget got it last. -/
theorem focused_run :
    ((initial id setup image).run xs).app.display.focused =
      (lastFocus (Effect.calls ((initial id setup image).state.run xs).effects)).map
        Widget.name := by
  have hd := congrArg Prod.fst (display_run (initial id setup image) xs)
  have hcalls := (State.numberedFrom_performAll (numberedFrom_initial id setup image)
    ((initial id setup image).state.deeds xs)).2
  rw [← State.run_eq (coherent_initial id setup image)] at hcalls
  rw [show ((initial id setup image).run xs).app.display = _ from hd, Display.focused_calls]
  · exact Option.or_none
  -- The builder's console may have the name of an instance, but never the number of its widget.
  · intro c hc hf hb
    have hw : c.widget = { name := State.builderName } := (Option.some.inj hb).symm
    have hserial := hcalls c hc hf
    rw [hw] at hserial
    cases hserial

end

/-- When a widget is attached to an instance, what was kept for the instance is shown if its name
has the keyboard already, that is, if an earlier instance of this name got it last. Otherwise it is
lost: nothing of it is shown, and nothing is kept any longer. -/
theorem printed_of_attach (id : String) (setup : Setup) (image : Option String)
    (xs : List Stimulus) {x : Stimulus} {name : String} {w : Widget}
    (hs : (((initial id setup image).run xs).app.state.screen name).widget = none)
    (ht : ((((initial id setup image).run xs).app.respond x).app.state.screen name).widget = some w)
    (hx : x.removes name = false) :
    let a := ((initial id setup image).run xs).app
    let m := a.respond x
    printed m.outputs =
        (if a.display.focused = some name then (a.state.screen name).backlog else []) ∧
      m.app.state.screen name = { widget := some w } ∧ m.app.display.focused = some name := by
  intro a m
  have hc : a.state.Coherent := by
    show ((initial id setup image).run xs).app.state.Coherent
    rw [state_run]
    exact (coherent_initial id setup image).run xs
  obtain ⟨geometry, before, later, hcalls, hdrops, rfl, hserial, hscreen⟩ :=
    State.calls_of_attach hc hs ht hx
  have hnumbered : 1 ≤ a.state.nextSerial := by
    show 1 ≤ ((initial id setup image).run xs).app.state.nextSerial
    rw [state_run, State.run_eq (coherent_initial id setup image)]
    exact (State.numberedFrom_performAll (numberedFrom_initial id setup image) _).1.next
  have hb : a.display.builder ≠ some w := by
    rw [show a.display.builder = _ from builder_run id setup image xs]
    intro he
    have hzero : w.serial = 0 := (congrArg Widget.serial (Option.some.inj he)).symm
    omega
  -- The widgets that are dropped show nothing, so that only the opening counts.
  have hshown : a.display.calls (Effect.calls (a.state.respond x).effects) =
      a.display.calls ((a.state.screen w.name).openingCalls w geometry ++ [⟨w, .focus⟩]) := by
    rw [hcalls, Display.calls_append,
      a.display.calls_of_drops fun c hm => hdrops c (List.mem_append_left _ hm),
      Display.calls_append,
      Display.calls_of_drops _ fun c hm => hdrops c (List.mem_append_right _ hm)]
    simp
  obtain ⟨hprinted, hfocused⟩ := a.display.printed_opening hb (a.state.screen w.name) geometry
  rw [← hshown] at hprinted hfocused
  exact ⟨hprinted, hscreen, hfocused⟩

/-- An instance that comes after another one of its name, which had the keyboard last, finds the
keyboard with its name: its history is shown. -/
theorem printed_of_namesake :
    let xs : List Stimulus :=
      [.bootstrap (.ok { instances := [("a", .named "a")] }), .inbound (.instanceDelete "a"),
        .inbound (.terminalOut "a" [104, 105])]
    let a := ((initial "s1" {} none).run xs).app
    let m := a.respond (.command "" (.select "a"))
    (a.state.screen "a").widget = none ∧
      (m.app.state.screen "a").widget = some { name := "a", serial := 3 } ∧
      (a.state.screen "a").backlog = [104, 105] ∧ printed m.outputs = [104, 105] := by
  intro xs a m
  have hs : (a.state.screen "a").widget = none := by decide +kernel
  have ht : (m.app.state.screen "a").widget = some { name := "a", serial := 3 } := by decide +kernel
  have hkept : (a.state.screen "a").backlog = [104, 105] := by decide +kernel
  have hfocused : a.display.focused = some "a" := by decide +kernel
  have hprinted := (printed_of_attach "s1" {} none xs hs ht rfl).1
  exact ⟨hs, ht, hkept, hprinted.trans ((if_pos hfocused).trans hkept)⟩

/-- The history of an instance that is shown for the first time is lost if another one has the
keyboard: nothing of it is printed, and nothing is kept. -/
theorem history_lost :
    let a := ((initial "s1" {} none).run
      [.bootstrap (.ok { instances := [("a", .named "a")] }), .inbound (.instanceNew (.named "b")),
        .inbound (.terminalOut "b" [104, 105])]).app
    let m := a.respond (.command "" (.select "b"))
    a.state.screen "b" = { backlog := [104, 105] } ∧
      m.app.state.screen "b" = { widget := some { name := "b", serial := 3 } } ∧
      printed m.outputs = [] := by
  decide +kernel

end App

end TermSync.Console
