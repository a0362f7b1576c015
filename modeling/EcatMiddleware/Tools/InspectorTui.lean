import Mathlib.Data.List.Infix
import Mathlib.Data.List.Basic
import Mathlib.Tactic.SplitIfs

/-!
# The screen of the shared-memory inspector

`InspectorTui` keeps what is selected and how far the two panes are scrolled; `draw` corrects both
for what there is to see before it draws.

* `filter_drawQueueList`: one row is highlighted, that of the selected queue.
* `draw_shows`: the details are those of this queue, their lines a window that is full where there
  are enough of them.
-/

namespace EcatMiddleware.Tools

/-- A queue as it was sampled. The rate and the age of the last message are left out. -/
structure QueueSnapshot where
  name : String
  protoName : String
  buffered : ℕ
  capacity : ℕ
  observedMessages : ℕ
  messages : List String
  deriving DecidableEq, Repr

structure InspectorSnapshot where
  shmName : String := ""
  queues : List QueueSnapshot := []
  totalBuffered : ℕ := 0
  history : Bool := false
  keepLastQueue : Bool := false
  error : String := ""
  deriving DecidableEq, Repr

/-! ## Keys -/

inductive Key where
  | char (c : Char)
  | up
  | down
  | pageUp
  | pageDown
  | home
  | backTab
  | other
  deriving DecidableEq, Repr

inductive Action where
  | none
  | redraw
  | quit
  | nextSource
  | previousSource
  | selectSource (index : ℕ)
  | toggleHistory
  | reconnect
  deriving DecidableEq, Repr

structure InspectorTui where
  selected : ℕ := 0
  queueScroll : ℕ := 0
  detailScroll : ℕ := 0
  visibleCount : ℕ := 0
  paused : Bool := false
  filter : String := ""
  deriving DecidableEq, Repr

namespace InspectorTui

def resetSelection (tui : InspectorTui) : InspectorTui :=
  { tui with selected := 0, queueScroll := 0, detailScroll := 0 }

/-- `prompt_filter`, where `typed` is what `getnstr` reads. -/
def promptFilter (tui : InspectorTui) (typed : String) : InspectorTui :=
  { tui with filter := typed }.resetSelection

def selectUp (tui : InspectorTui) : InspectorTui :=
  if tui.selected > 0 then { tui with selected := tui.selected - 1, detailScroll := 0 } else tui

def selectDown (tui : InspectorTui) : InspectorTui :=
  if tui.selected + 1 < tui.visibleCount then
    { tui with selected := tui.selected + 1, detailScroll := 0 }
  else tui

/-- The keys `1` to `9`. -/
def sourceKey (sourceCount : ℕ) (c : Char) : Action :=
  if '1' ≤ c ∧ c ≤ '9' ∧ c.toNat - '1'.toNat < sourceCount then
    .selectSource (c.toNat - '1'.toNat)
  else .none

/-- `process_input` once `getch` has returned a key. -/
def processInput (tui : InspectorTui) (sourceCount : ℕ) (typed : String) :
    Key → InspectorTui × Action
  | .char 'q' | .char 'Q' => (tui, .quit)
  | .char '\t' => (tui, .nextSource)
  | .backTab => (tui, .previousSource)
  | .char 'p' | .char 'P' => ({ tui with paused := !tui.paused }, .redraw)
  | .char 'h' | .char 'H' => (tui, .toggleHistory)
  | .char '/' => (tui.promptFilter typed, .redraw)
  | .char 'x' | .char 'X' => ({ tui with filter := "" }.resetSelection, .redraw)
  | .char 'c' | .char 'C' => (tui, .reconnect)
  | .up | .char 'k' => (tui.selectUp, .redraw)
  | .down | .char 'j' => (tui.selectDown, .redraw)
  | .pageUp =>
    ({ tui with detailScroll := if tui.detailScroll > 10 then tui.detailScroll - 10 else 0 },
      .redraw)
  | .pageDown => ({ tui with detailScroll := tui.detailScroll + 10 }, .redraw)
  | .home => ({ tui with detailScroll := 0 }, .redraw)
  | .char c => (tui, sourceKey sourceCount c)
  | .other => (tui, .none)

end InspectorTui

/-! ## Drawing -/

/-- A line of the queue list. -/
structure Row where
  queue : QueueSnapshot
  reversed : Bool
  deriving DecidableEq, Repr

inductive Details where
  | error (text : String)
  | noQueue
  | notSampled (queue : QueueSnapshot)
  | lines (queue : QueueSnapshot) (shown : List String)
  deriving DecidableEq, Repr

/-- What is drawn, before it is clipped to the width of the panes. -/
structure Screen where
  shmName : String
  activeSource : ℕ
  history : Bool
  keepLastQueue : Bool
  paused : Bool
  totalBuffered : ℕ
  filter : String
  rows : List Row
  details : Details
  deriving DecidableEq, Repr

/-- `std::getline` until the end of the text: a newline at the end starts no further line. -/
def getlines (line : List Char) : List Char → List String
  | [] => if line = [] then [] else [String.ofList line]
  | '\n' :: text => String.ofList line :: getlines [] text
  | c :: text => getlines (line ++ [c]) text

def messageLines (queue : QueueSnapshot) : List String :=
  (queue.messages.mapIdx fun i message =>
    (if queue.messages.length > 1 then ["--- Message #" ++ toString i ++ " ---"] else []) ++
      getlines [] message.toList ++
      (if i + 1 ≠ queue.messages.length then [""] else [])).flatten

namespace InspectorTui

def filtered (tui : InspectorTui) (snapshot : InspectorSnapshot) : List QueueSnapshot :=
  snapshot.queues.filter fun queue =>
    tui.filter = "" ∨ tui.filter.toList <:+: queue.name.toList ∨
      tui.filter.toList <:+: queue.protoName.toList

/-- The selection is kept within the queues that are visible. -/
def clampSelection (tui : InspectorTui) (count : ℕ) : InspectorTui :=
  if count = 0 then { tui.resetSelection with visibleCount := count }
  else if tui.selected ≥ count then
    { tui with visibleCount := count, selected := count - 1, detailScroll := 0 }
  else { tui with visibleCount := count }

def scrollUp (tui : InspectorTui) : InspectorTui :=
  if tui.selected < tui.queueScroll then { tui with queueScroll := tui.selected } else tui

def scrollDown (tui : InspectorTui) (rows : ℕ) : InspectorTui :=
  if tui.selected ≥ tui.queueScroll + rows then
    { tui with queueScroll := tui.selected - rows + 1 }
  else tui

/-- The rows of a list whose first element has the index `first`. -/
def rowsFrom (first selected : ℕ) (queues : List QueueSnapshot) : List Row :=
  queues.mapIdx fun row queue => ⟨queue, first + row = selected⟩

/-- The list is scrolled until the selected row is on it. -/
def drawQueueList (tui : InspectorTui) (queues : List QueueSnapshot) (height : ℕ) :
    InspectorTui × List Row :=
  let rows := height - 1
  if rows = 0 then (tui, [])
  else
    let scrolled := tui.scrollUp.scrollDown rows
    (scrolled, rowsFrom scrolled.queueScroll scrolled.selected
      ((queues.drop scrolled.queueScroll).take rows))

def drawDetails (tui : InspectorTui) (queues : List QueueSnapshot) (height : ℕ) (error : String) :
    InspectorTui × Details :=
  if error ≠ "" then (tui, .error error)
  else match queues[tui.selected]? with
    | none => (tui, .noQueue)
    | some queue =>
      if queue.messages = [] then ({ tui with detailScroll := 0 }, .notSampled queue)
      else
        let lines := messageLines queue
        let tui := { tui with detailScroll := min tui.detailScroll (lines.length - (height - 7)) }
        (tui, .lines queue ((lines.drop tui.detailScroll).take (height - 7)))

/-- `draw`; nothing is drawn on a terminal that is too small. -/
def draw (tui : InspectorTui) (snapshot : InspectorSnapshot) (activeSource height width : ℕ) :
    InspectorTui × Option Screen :=
  if height < 12 ∨ width < 72 then (tui, none)
  else
    let visible := tui.filtered snapshot
    let bodyHeight := height - 3 - 1
    let list := (tui.clampSelection visible.length).drawQueueList visible bodyHeight
    let details := list.1.drawDetails visible bodyHeight snapshot.error
    (details.1, some {
      shmName := snapshot.shmName
      activeSource := activeSource
      history := snapshot.history
      keepLastQueue := snapshot.keepLastQueue
      paused := tui.paused
      totalBuffered := snapshot.totalBuffered
      filter := tui.filter
      rows := list.2
      details := details.2 })

/-! ## What is corrected -/

theorem selected_clampSelection (tui : InspectorTui) (count : ℕ) :
    (tui.clampSelection count).selected = min tui.selected (count - 1) := by
  unfold clampSelection resetSelection
  by_cases hcount : count = 0
  · rw [if_pos hcount]
    show 0 = min tui.selected (count - 1)
    omega
  · rw [if_neg hcount]
    by_cases hselected : tui.selected ≥ count
    · rw [if_pos hselected]
      show count - 1 = min tui.selected (count - 1)
      omega
    · rw [if_neg hselected]
      show tui.selected = min tui.selected (count - 1)
      omega

theorem paused_clampSelection (tui : InspectorTui) (count : ℕ) :
    (tui.clampSelection count).paused = tui.paused := by
  unfold clampSelection resetSelection
  split_ifs <;> rfl

theorem selected_scrollUp (tui : InspectorTui) : tui.scrollUp.selected = tui.selected := by
  unfold scrollUp
  split_ifs <;> rfl

theorem selected_scrollDown (tui : InspectorTui) (rows : ℕ) :
    (tui.scrollDown rows).selected = tui.selected := by
  unfold scrollDown
  split_ifs <;> rfl

theorem paused_scrollDown_scrollUp (tui : InspectorTui) (rows : ℕ) :
    (tui.scrollUp.scrollDown rows).paused = tui.paused := by
  unfold scrollDown scrollUp
  split_ifs <;> rfl

theorem queueScroll_scrollUp_le (tui : InspectorTui) : tui.scrollUp.queueScroll ≤ tui.selected := by
  unfold scrollUp
  split_ifs with h
  · exact Nat.le_refl _
  · omega

/-- The selected row is one of those that are drawn. -/
theorem scrollDown_bounds {tui : InspectorTui} {rows : ℕ} (hrows : 0 < rows)
    (h : tui.queueScroll ≤ tui.selected) :
    (tui.scrollDown rows).queueScroll ≤ tui.selected ∧
      tui.selected < (tui.scrollDown rows).queueScroll + rows := by
  unfold scrollDown
  by_cases hdown : tui.selected ≥ tui.queueScroll + rows
  · rw [if_pos hdown]
    show tui.selected - rows + 1 ≤ tui.selected ∧ tui.selected < tui.selected - rows + 1 + rows
    omega
  · rw [if_neg hdown]
    omega

/-! ## The queue list -/

theorem rowsFrom_cons (first selected : ℕ) (queue : QueueSnapshot) (queues : List QueueSnapshot) :
    rowsFrom first selected (queue :: queues) =
      ⟨queue, first = selected⟩ :: rowsFrom (first + 1) selected queues := by
  unfold rowsFrom
  rw [List.mapIdx_cons]
  congr 2
  funext row queue
  rw [show first + (row + 1) = first + 1 + row by omega]

theorem map_queue_rowsFrom (first selected : ℕ) (queues : List QueueSnapshot) :
    (rowsFrom first selected queues).map Row.queue = queues := by
  induction queues generalizing first with
  | nil => rfl
  | cons queue queues ih => rw [rowsFrom_cons, List.map_cons, ih]

theorem filter_rowsFrom_of_lt {first selected : ℕ} (h : selected < first)
    (queues : List QueueSnapshot) : (rowsFrom first selected queues).filter Row.reversed = [] := by
  induction queues generalizing first with
  | nil => rfl
  | cons queue queues ih =>
    rw [rowsFrom_cons, List.filter_cons_of_neg (by simp; omega)]
    exact ih (by omega)

/-- One row is highlighted, that of the selected index. -/
theorem filter_rowsFrom {first selected : ℕ} {queues : List QueueSnapshot} {queue : QueueSnapshot}
    (hfirst : first ≤ selected) (hqueue : queues[selected - first]? = some queue) :
    (rowsFrom first selected queues).filter Row.reversed = [⟨queue, true⟩] := by
  induction queues generalizing first with
  | nil => exact absurd hqueue (by simp)
  | cons queue' queues ih =>
    rw [rowsFrom_cons]
    by_cases hsame : first = selected
    · subst hsame
      rw [Nat.sub_self, List.getElem?_cons_zero] at hqueue
      rw [List.filter_cons_of_pos (by simp), filter_rowsFrom_of_lt (by omega),
        ← Option.some.inj hqueue, decide_eq_true rfl]
    · rw [List.filter_cons_of_neg (by simpa using hsame)]
      apply ih (by omega)
      rwa [show selected - first = selected - (first + 1) + 1 by omega,
        List.getElem?_cons_succ] at hqueue

/-- The list as it is drawn: a part of it, in which the selected queue is highlighted. -/
theorem drawQueueList_eq (tui : InspectorTui) (queues : List QueueSnapshot) {height : ℕ}
    (hheight : 1 < height) : tui.drawQueueList queues height =
      (tui.scrollUp.scrollDown (height - 1),
        rowsFrom (tui.scrollUp.scrollDown (height - 1)).queueScroll tui.selected
          ((queues.drop (tui.scrollUp.scrollDown (height - 1)).queueScroll).take
            (height - 1))) := by
  unfold drawQueueList
  rw [if_neg (show ¬ height - 1 = 0 by omega)]
  show (tui.scrollUp.scrollDown (height - 1), rowsFrom _
    (tui.scrollUp.scrollDown (height - 1)).selected _) = _
  rw [selected_scrollDown, selected_scrollUp]

theorem filter_drawQueueList (tui : InspectorTui) {queues : List QueueSnapshot}
    {queue : QueueSnapshot} {height : ℕ} (hheight : 1 < height)
    (hqueue : queues[tui.selected]? = some queue) :
    (tui.drawQueueList queues height).2.filter Row.reversed = [⟨queue, true⟩] := by
  have hrows : 0 < height - 1 := by omega
  obtain ⟨hlow, hhigh⟩ := scrollDown_bounds hrows
    (show tui.scrollUp.queueScroll ≤ tui.scrollUp.selected by
      rw [selected_scrollUp]; exact tui.queueScroll_scrollUp_le)
  rw [selected_scrollUp] at hlow hhigh
  rw [drawQueueList_eq tui queues hheight]
  apply filter_rowsFrom hlow
  rw [List.getElem?_take_of_lt (by omega), List.getElem?_drop, Nat.add_sub_cancel' hlow, hqueue]

/-! ## The details -/

/-- The details of a queue; its lines fill the pane where there are enough of them. -/
inductive DetailsOf (queue : QueueSnapshot) (error : String) (rows : ℕ) : Details → Prop
  | error (herror : error ≠ "") : DetailsOf queue error rows (.error error)
  | notSampled (herror : error = "") (hmessages : queue.messages = []) :
      DetailsOf queue error rows (.notSampled queue)
  | lines {before shown after : List String} (herror : error = "")
      (hmessages : queue.messages ≠ []) (hlines : messageLines queue = before ++ (shown ++ after))
      (hfull : shown.length = min rows (messageLines queue).length) :
      DetailsOf queue error rows (.lines queue shown)

theorem detailsOf_drawDetails (tui : InspectorTui) {queues : List QueueSnapshot}
    {queue : QueueSnapshot} (hqueue : queues[tui.selected]? = some queue) (height : ℕ)
    (error : String) :
    DetailsOf queue error (height - 7) (tui.drawDetails queues height error).2 := by
  unfold drawDetails
  by_cases herror : error = ""
  · rw [if_neg (not_not.mpr herror), hqueue]
    by_cases hmessages : queue.messages = []
    · show DetailsOf queue error _ (if queue.messages = [] then _ else _ : InspectorTui × Details).2
      rw [if_pos hmessages]
      exact .notSampled herror hmessages
    · show DetailsOf queue error _ (if queue.messages = [] then _ else _ : InspectorTui × Details).2
      rw [if_neg hmessages]
      let first := min tui.detailScroll ((messageLines queue).length - (height - 7))
      have hsplit : messageLines queue = (messageLines queue).take first ++
          (((messageLines queue).drop first).take (height - 7) ++
            ((messageLines queue).drop first).drop (height - 7)) := by
        rw [List.take_append_drop, List.take_append_drop]
      refine .lines herror hmessages hsplit ?_
      rw [List.length_take, List.length_drop]
      show min _ (_ - min _ _) = _
      omega
  · rw [if_pos herror]
    exact .error herror

theorem selected_drawDetails (tui : InspectorTui) (queues : List QueueSnapshot) (height : ℕ)
    (error : String) : (tui.drawDetails queues height error).1.selected = tui.selected := by
  unfold drawDetails
  split_ifs
  · rfl
  · split
    · rfl
    · split_ifs <;> rfl

theorem paused_drawDetails (tui : InspectorTui) (queues : List QueueSnapshot) (height : ℕ)
    (error : String) : (tui.drawDetails queues height error).1.paused = tui.paused := by
  unfold drawDetails
  split_ifs
  · rfl
  · split
    · rfl
    · split_ifs <;> rfl

/-! ## The frame -/

theorem paused_draw (tui : InspectorTui) (snapshot : InspectorSnapshot)
    (activeSource height width : ℕ) :
    (tui.draw snapshot activeSource height width).1.paused = tui.paused := by
  unfold draw
  by_cases hsmall : height < 12 ∨ width < 72
  · rw [if_pos hsmall]
  · rw [if_neg hsmall]
    show (drawDetails _ _ _ _).1.paused = tui.paused
    rw [paused_drawDetails, drawQueueList_eq _ _ (show 1 < height - 3 - 1 by omega)]
    show ((clampSelection tui _).scrollUp.scrollDown _).paused = tui.paused
    rw [paused_scrollDown_scrollUp, paused_clampSelection]

/-- What a frame shows of the queues that pass the filter. -/
structure Shows (screen : Screen) (visible : List QueueSnapshot) (error : String)
    (selected height : ℕ) : Prop where
  part : ∃ first, screen.rows.map Row.queue = (visible.drop first).take (height - 5)
  nothing : visible = [] → screen.rows = [] ∧
    screen.details = if error ≠ "" then .error error else .noQueue
  selected : visible ≠ [] → ∃ queue, visible[selected]? = some queue ∧
    screen.rows.filter Row.reversed = [⟨queue, true⟩] ∧
    DetailsOf queue error (height - 11) screen.details

/-- **The frame is consistent**, whatever was selected, filtered and scrolled before: a part of the
visible queues is listed, the selected one is the one row that is highlighted, and the details are
those of that queue. -/
theorem draw_shows (tui : InspectorTui) (snapshot : InspectorSnapshot) (activeSource : ℕ)
    {height width : ℕ} (hheight : 12 ≤ height) (hwidth : 72 ≤ width) :
    ∃ tui' screen, tui.draw snapshot activeSource height width = (tui', some screen) ∧
      Shows screen (tui.filtered snapshot) snapshot.error tui'.selected height := by
  let visible := tui.filtered snapshot
  let clamped := tui.clampSelection visible.length
  let list := clamped.drawQueueList visible (height - 3 - 1)
  have hlist : list = _ := drawQueueList_eq clamped visible (show 1 < height - 3 - 1 by omega)
  have hkept : list.1.selected = clamped.selected := by
    rw [hlist]
    show (clamped.scrollUp.scrollDown _).selected = _
    rw [selected_scrollDown, selected_scrollUp]
  have hclamped : clamped.selected = min tui.selected (visible.length - 1) :=
    selected_clampSelection _ _
  unfold draw
  rw [if_neg (show ¬ (height < 12 ∨ width < 72) by omega)]
  refine ⟨_, _, rfl, ?_⟩
  show Shows _ visible _ (list.1.drawDetails visible (height - 3 - 1) snapshot.error).1.selected _
  rw [selected_drawDetails, hkept]
  constructor
  · refine ⟨(clamped.scrollUp.scrollDown (height - 3 - 1 - 1)).queueScroll, ?_⟩
    show list.2.map Row.queue = _
    rw [hlist, map_queue_rowsFrom, show height - 3 - 1 - 1 = height - 5 by omega]
  · intro hempty
    constructor
    · show list.2 = []
      rw [hlist, hempty, List.drop_nil, List.take_nil]
      rfl
    · show (list.1.drawDetails visible _ _).2 = _
      unfold drawDetails
      rw [hempty]
      split_ifs <;> rfl
  · intro hne
    have hlength : 0 < visible.length := List.length_pos_of_ne_nil hne
    obtain ⟨queue, hqueue⟩ : ∃ queue, visible[clamped.selected]? = some queue :=
      ⟨_, List.getElem?_eq_getElem (by omega)⟩
    refine ⟨queue, hqueue, ?_, ?_⟩
    · exact filter_drawQueueList clamped (show 1 < height - 3 - 1 by omega) hqueue
    · show DetailsOf queue _ _ (list.1.drawDetails visible (height - 3 - 1) snapshot.error).2
      rw [show height - 11 = height - 3 - 1 - 7 by omega]
      exact detailsOf_drawDetails list.1 (by rw [hkept]; exact hqueue) _ _

/-- A selection behind the end of a list of two. -/
theorem draw_shows_two : ∃ tui screen,
    draw { selected := 7, queueScroll := 5 }
      { queues := [⟨"imu", "pdo", 0, 8, 0, []⟩, ⟨"motor", "pdo", 1, 8, 1, ["a\nb\n"]⟩] } 0 12 72 =
        (tui, some screen) ∧ tui.selected = 1 ∧
    Shows screen [⟨"imu", "pdo", 0, 8, 0, []⟩, ⟨"motor", "pdo", 1, 8, 1, ["a\nb\n"]⟩] ""
      tui.selected 12 := by
  obtain ⟨tui, screen, hdraw, hshows⟩ := draw_shows { selected := 7, queueScroll := 5 }
    { queues := [⟨"imu", "pdo", 0, 8, 0, []⟩, ⟨"motor", "pdo", 1, 8, 1, ["a\nb\n"]⟩] } 0
    (le_refl 12) (le_refl 72)
  have hselected : tui.selected = 1 := by
    rw [← (Prod.mk.inj hdraw).1]
    rfl
  exact ⟨tui, screen, hdraw, hselected, hshows⟩

end InspectorTui

end EcatMiddleware.Tools
