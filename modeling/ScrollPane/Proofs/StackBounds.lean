import ScrollPane.Proofs.Parts

/-!
# Bounds of a stack's windows

A stack takes from each child no more rows than it has asked it for. That alone does not bound the
rows it gives: it asks the next child for what is left of the window below the height that this one
*reports*, not below the rows it has *given*. The window is kept to its height if no child gives more
rows than its content has from the top asked for on. Above the first row of the stack there is
nothing to skip, and from there no child can do otherwise, because content is never reported lower
than the rows given.

## Main definitions

- `Ensures`: what an action that keeps a property of the world answers;
- `Window.Inside`: a window holds no more rows than the content has there;
- `Component.KeepsUpTo`: drawing keeps a property of the world, in windows up to a height.

## Main statements

- `Stack.ensures_window`: the rows in a window of a stack are no more than asked for.
-/

namespace ScrollPane

variable {σ α β : Type} {inv : σ → Prop}

/-! ## Properties of an answer -/

/-- In every world with `inv`, the action answers something with `post` and leaves a world with
`inv`. -/
def Ensures (inv : σ → Prop) (action : StateM σ α) (post : α → Prop) : Prop :=
  ∀ world, inv world → post (action world).1 ∧ inv (action world).2

namespace Ensures

variable {post : α → Prop}

protected theorem pure {a : α} (h : post a) : Ensures inv (pure a) post :=
  fun _ hInv => ⟨h, hInv⟩

protected theorem bind {next : β → Prop} {action : StateM σ α} {rest : α → StateM σ β}
    (hAction : Ensures inv action post) (hRest : ∀ a, post a → Ensures inv (rest a) next) :
    Ensures inv (action >>= rest) next := by
  intro world hInv
  obtain ⟨hPost, hAfter⟩ := hAction world hInv
  exact hRest _ hPost _ hAfter

theorem mono {post' : α → Prop} {action : StateM σ α} (h : Ensures inv action post)
    (hPost : ∀ a, post a → post' a) : Ensures inv action post' :=
  fun world hInv => ⟨hPost _ (h world hInv).1, (h world hInv).2⟩

end Ensures

/-- Drawing the component keeps a property of the world, in full or in a window of at most `tall`
rows. -/
structure Component.KeepsUpTo (inv : σ → Prop) (tall : Nat) (c : Component σ) : Prop where
  render : ∀ width, Ensures inv (c.render width) fun _ => True
  view : ∀ width (v : Viewport), v.height.toNat ≤ tall → Ensures inv (c.view width v) fun _ => True

/-! ## Windows inside their content -/

/-- The window holds no more rows than its content has, and than it has from the viewport's top on. -/
structure Window.Inside (v : Viewport) (w : Window) : Prop where
  length_le_height : (w.rows.length : Int) ≤ w.contentHeight
  length_le_rest : (w.rows.length : Int) ≤ max 0 (w.contentHeight - max 0 v.top)

/-- A slice of rows is inside a content that is not lower than the rows. -/
theorem Viewport.inside_slice (v : Viewport) {rows : List Text} {height : Int}
    (h : rows.length ≤ height) :
    Window.Inside v { rows := v.slice rows, contentHeight := height } where
  length_le_height := by
    have hLength := v.slice_length_le rows
    dsimp only
    omega
  length_le_rest := by
    dsimp only
    rw [v.slice_length]
    omega

namespace Component

/-- An answer to a viewport is the window that the component draws, with its height corrected. -/
theorem ensures_view_of_window {c : Component σ} {window : Int → Viewport → StateM σ Window}
    (hWindow : c.window? = some window) {width : Int} {v : Viewport} {drawn post : Window → Prop}
    (h : Ensures inv (window width v) drawn)
    (hPost : ∀ w, drawn w → post { w with contentHeight := max w.contentHeight w.rows.length }) :
    Ensures inv (c.view width v) post := by
  simp only [view, hWindow]
  exact h.bind fun w hDrawn => Ensures.pure (hPost w hDrawn)

/-- Content is never reported lower than the rows given, so a window that is inside its content
stays so when its height is corrected. -/
theorem inside_max {w : Window} {v : Viewport}
    (h : (w.rows.length : Int) ≤ max 0 (w.contentHeight - max 0 v.top)) :
    Window.Inside v { w with contentHeight := max w.contentHeight w.rows.length } where
  length_le_height := Int.le_max_right _ _
  length_le_rest := by
    dsimp only
    omega

/-- A component that only draws itself in full answers with a slice of that. -/
theorem ensures_view_of_render {c : Component σ} (hPlain : c.window? = none) {width : Int}
    (h : Ensures inv (c.render width) fun _ => True) (v : Viewport) :
    Ensures inv (c.view width v) (Window.Inside v) := by
  simp only [view, hPlain]
  exact h.bind fun rows _ => Ensures.pure (v.inside_slice (Int.le_refl _))

/-- The component without rows is inside its content. -/
theorem ensures_view_blank (width : Int) (v : Viewport) :
    Ensures inv ((blank : Component σ).view width v) (Window.Inside v) :=
  ensures_view_of_render rfl (Ensures.pure trivial) v

theorem keepsUpTo_blank (tall : Nat) : (blank : Component σ).KeepsUpTo inv tall where
  render _ := Ensures.pure trivial
  view width v _ := (ensures_view_blank width v).mono fun _ _ => trivial

/-- No answer reports its content lower than the rows it gives. -/
theorem length_view_le (c : Component σ) (width : Int) (v : Viewport) (world : σ) :
    let w := (c.view width v world).1
    (w.rows.length : Int) ≤ w.contentHeight := by
  unfold view
  cases c.window? with
  | some window => exact Int.le_max_right _ _
  | none => exact Int.ofNat_le.mpr (v.slice_length_le _)

/-- From the first row on, every answer is inside its content. -/
theorem ensures_view_of_top_nonpos (c : Component σ) (width : Int) {v : Viewport} (hTop : v.top ≤ 0) :
    Ensures (fun _ => True) (c.view width v) (Window.Inside v) := by
  intro world _
  have hHeight := c.length_view_le width v world
  exact ⟨{ length_le_height := hHeight, length_le_rest := by dsimp only at hHeight; omega }, trivial⟩

theorem KeepsUpTo.mono {c : Component σ} {tall low : Nat} (h : c.KeepsUpTo inv tall)
    (hLow : low ≤ tall) : c.KeepsUpTo inv low where
  render := h.render
  view width v hHeight := h.view width v (Nat.le_trans hHeight hLow)

theorem KeepsUpTo.ensures_view {c : Component σ} {tall : Nat} (h : c.KeepsUpTo inv tall)
    (width : Int) {v : Viewport} (hHeight : v.height.toNat ≤ tall) :
    Ensures inv (c.view width v) fun w => (w.rows.length : Int) ≤ w.contentHeight :=
  fun world hInv => ⟨c.length_view_le width v world, (h.view width v hHeight world hInv).2⟩

theorem KeepsUpTo.within {c : Component α} {slot : Slot σ α}
    (hSet : ∀ world content, inv world → inv (slot.set content world)) (tall : Nat) :
    (c.within slot).KeepsUpTo inv tall where
  render width world hInv := ⟨trivial, hSet world _ hInv⟩
  view width v _ world hInv := by
    rw [view_within]
    exact ⟨trivial, hSet world _ hInv⟩

/-- A component answers in a larger world what it answers on its own. -/
theorem ensures_view_within {c : Component α} {slot : Slot σ α} {post : Window → Prop}
    (hSet : ∀ world content, inv world → inv (slot.set content world)) {width : Int} {v : Viewport}
    (h : Ensures (fun _ => True) (c.view width v) post) :
    Ensures inv ((c.within slot).view width v) post := by
  intro world hInv
  rw [view_within]
  exact ⟨(h _ trivial).1, hSet world _ hInv⟩

/-- A block with a header answers with a slice of its rows, which it draws in full for that. -/
theorem ensures_view_withHeader {c : Component σ} {width : Int}
    (h : Ensures inv (c.render width) fun _ => True) (header : Header) (v : Viewport) :
    Ensures inv ((c.withHeader header).view width v) (Window.Inside v) := by
  refine ensures_view_of_window rfl ?_ fun w (hDrawn : w.Inside v) => inside_max hDrawn.length_le_rest
  refine h.bind fun rows _ => Ensures.pure (v.inside_slice ?_)
  exact Int.ofNat_le.mpr (Nat.le_of_eq (header.length_pin rows v.top none))

theorem KeepsUpTo.withHeader {c : Component σ} {low : Nat} (h : c.KeepsUpTo inv low)
    (header : Header) (tall : Nat) : (c.withHeader header).KeepsUpTo inv tall where
  render := h.render
  view width v _ := (ensures_view_withHeader (h.render width) header v).mono fun _ _ => trivial

end Component

/-! ## Stacks -/

namespace Stack

/-- What a stack gives of its children from row `row` on, in the window `[top, bottom)`. -/
structure Fits (top bottom row : Int) (w : Window) : Prop where
  length_le_room : (w.rows.length : Int) ≤ max 0 (bottom - max row top)
  row_le_height : row ≤ w.contentHeight
  inside : (w.rows.length : Int) ≤ max 0 (w.contentHeight - max row top)

/-- A child that stays inside its content leaves the children below it the room they need. -/
theorem Fits.cons {width height top bottom row : Int} {w more : Window}
    (hInside : Window.Inside { width, height, top := max 0 (top - row) } w)
    (hMore : Fits top bottom (row + w.contentHeight) more) :
    Fits top bottom row
      { more with
        rows := w.rows.take (max 0 (bottom - row - max 0 (top - row))).toNat ++ more.rows } := by
  have hHeight := hInside.length_le_height
  have hRest : (w.rows.length : Int) ≤ max 0 (w.contentHeight - max 0 (max 0 (top - row))) :=
    hInside.length_le_rest
  obtain ⟨hRoom, hRow, hBelow⟩ := hMore
  constructor
  all_goals
    simp only [List.length_append, List.length_take]
    omega

/-- No child is asked for more rows than the stack. -/
theorem height_le (width top bottom row : Int) :
    let asked : Viewport :=
      { width, height := max 0 (bottom - row - max 0 (top - row)), top := max 0 (top - row) }
    asked.height.toNat ≤ (bottom - top).toNat := by
  dsimp only
  omega

/-- A window that starts at a row of the stack fits, if all children stay inside their content. -/
theorem ensures_windowFrom {width top bottom row : Int} (hTop : 0 ≤ top) (hRow : 0 ≤ row)
    {children : List (Component σ)}
    (h : ∀ child ∈ children, ∀ v : Viewport, v.top ≤ top → v.height.toNat ≤ (bottom - top).toNat →
      Ensures inv (child.view width v) (Window.Inside v)) :
    Ensures inv (windowFrom width top bottom row children) (Fits top bottom row) := by
  induction children generalizing row with
  | nil =>
    refine Ensures.pure { length_le_room := ?_, row_le_height := Int.le_refl row, inside := ?_ }
    · exact Int.le_max_left 0 _
    · exact Int.le_max_left 0 _
  | cons child below ih =>
    have hBelow := fun c hc => h c (List.mem_cons_of_mem child hc)
    have hTopmost : max 0 (top - row) ≤ top := by omega
    refine (h child List.mem_cons_self _ hTopmost (height_le width top bottom row)).bind
      fun w hInside => ?_
    have hHeight := hInside.length_le_height
    refine (ih (by omega) hBelow).bind fun more hMore => Ensures.pure ?_
    exact Fits.cons hInside hMore

/-- **The window of a stack is not taller than asked for** if all children stay inside their content,
and then it is inside the content of the stack. No child is asked for a window that starts further
down than that of the stack, or that is taller. -/
theorem ensures_window {width : Int} {v : Viewport} {children : List (Component σ)}
    (h : ∀ child ∈ children, ∀ v' : Viewport, v'.top ≤ max 0 v.top →
      v'.height.toNat ≤ v.height.toNat → Ensures inv (child.view width v') (Window.Inside v')) :
    Ensures inv ((component children).view width v) fun w =>
      w.rows.length ≤ v.height.toNat ∧ w.Inside v := by
  have hFits : Ensures inv (window children width v)
      (Fits (max 0 v.top) (max 0 v.top + max 0 v.height) 0) := by
    refine ensures_windowFrom (Int.le_max_left 0 v.top) (Int.le_refl 0) ?_
    intro child hChild v' hTop hHeight
    exact h child hChild v' hTop (by omega)
  refine Component.ensures_view_of_window rfl hFits fun w hw => ?_
  obtain ⟨hRoom, -, hInside⟩ := hw
  refine ⟨?_, Component.inside_max ?_⟩
  · dsimp only
    omega
  · omega

theorem keeps_render (width : Int) {children : List (Component σ)}
    (h : ∀ child ∈ children, ∀ width, Ensures inv (child.render width) fun _ => True) :
    Ensures inv (Stack.render width children) fun _ => True := by
  induction children with
  | nil => exact Ensures.pure trivial
  | cons child below ih =>
    have hBelow := ih fun c hc => h c (List.mem_cons_of_mem child hc)
    refine (h child List.mem_cons_self width).bind fun rows _ => ?_
    exact hBelow.bind fun more _ => Ensures.pure trivial

theorem keeps_windowFrom (width top bottom row : Int) {children : List (Component σ)}
    (h : ∀ child ∈ children, child.KeepsUpTo inv (bottom - top).toNat) :
    Ensures inv (windowFrom width top bottom row children) fun _ => True := by
  induction children generalizing row with
  | nil => exact Ensures.pure trivial
  | cons child below ih =>
    have hBelow := fun row => ih row fun c hc => h c (List.mem_cons_of_mem child hc)
    have hChild := (h child List.mem_cons_self).view width _ (height_le width top bottom row)
    refine hChild.bind fun w _ => ?_
    exact (hBelow _).bind fun more _ => Ensures.pure trivial

/-- Drawing a stack keeps what drawing each child keeps. -/
theorem keepsUpTo_component {tall : Nat} {children : List (Component σ)}
    (h : ∀ child ∈ children, child.KeepsUpTo inv tall) : (component children).KeepsUpTo inv tall where
  render width := keeps_render width fun child hChild => (h child hChild).render
  view width v hHeight := by
    have hWindow : Ensures inv (window children width v) fun _ => True := by
      refine keeps_windowFrom width _ _ 0 fun child hChild => (h child hChild).mono ?_
      omega
    exact Component.ensures_view_of_window rfl hWindow fun _ _ => trivial

end Stack

end ScrollPane
