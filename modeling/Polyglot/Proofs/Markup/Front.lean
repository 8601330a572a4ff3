import Mathlib.Tactic.Common
import Polyglot.Markup.Page
import Polyglot.Markup.Writer

/-!
# How a page begins

Before the document element a page has only document types and comments, whatever it is
read from. So its first node is one of these or the document element itself (`leads_read`),
and not a text. Such a node is written with a less-than sign, behind which comes an
exclamation mark or the first letter of the document element (`exists_write_cons`).
-/

set_option autoImplicit false

namespace Polyglot

/-- What a page can begin with. -/
def Content.Leads : Content → Prop
  | .doctype _ | .comment _ => True
  | .element name _ => name = ⟨.html, "html".toList⟩
  | _ => False

theorem Content.Leads.text?_eq_none {content : Content} (leads : content.Leads) :
    content.text? = none := by
  cases content with
  | text _ => exact leads.elim
  | _ => rfl

namespace Markup

/-- What a page begins with is written with a less-than sign and one of two characters. -/
theorem exists_write_cons {α : Type} {tree : Tree α} (leads : tree.content.Leads) :
    ∃ c rest, write .top tree = '<' :: c :: rest ∧ (c = '!' ∨ c = 'h') := by
  obtain ⟨mark, content, children⟩ := tree
  cases content with
  | doctype name => exact ⟨'!', _, rfl, .inl rfl⟩
  | comment text => exact ⟨'!', _, rfl, .inl rfl⟩
  | element name attributes =>
    cases (leads : name = _)
    exact ⟨'h', _, rfl, .inr rfl⟩
  | document => exact leads.elim
  | text _ => exact leads.elim
  | instruction _ _ => exact leads.elim

namespace Page

/-- Before the document element there is only what a page can begin with. -/
def Led (page : Page) : Prop :=
  ∀ tree ∈ page.beforeHtml, tree.content.Leads

/-- Once the document element has begun, nothing comes before it any more. -/
theorem beforeHtml_take {page : Page} (begun : page.stage ≠ .initial)
    (begun' : page.stage ≠ .beforeHtml) (token : Token) :
    (page.take token).1.beforeHtml = page.beforeHtml := by
  rw [take]
  cases stage : page.stage with
  | initial => exact absurd stage begun
  | beforeHtml => exact absurd stage begun'
  | beforeHead => fun_cases takeBeforeHead <;> rfl
  | inHead => fun_cases takeInHead <;> rfl
  | afterHead => fun_cases takeAfterHead <;> rfl
  | inBody =>
    fun_cases takeInBody
    all_goals first | rfl | (dsimp only; split <;> rfl)
  | afterBody => fun_cases takeAfterBody <;> rfl
  | afterHtml => fun_cases takeAfterHtml <;> rfl

namespace Led

variable {page : Page} (led : page.Led)
include led

theorem take (token : Token) : (page.take token).1.Led := by
  by_cases initial : page.stage = .initial
  · rw [Page.take, initial]
    dsimp only
    fun_cases takeInitial
    all_goals first | exact led | exact List.forall_mem_cons.mpr ⟨trivial, led⟩
  · by_cases before : page.stage = .beforeHtml
    · rw [Page.take, before]
      dsimp only
      fun_cases takeBeforeHtml
      all_goals first | exact led | exact List.forall_mem_cons.mpr ⟨trivial, led⟩
    · rw [Led, beforeHtml_take initial before token]
      exact led

theorem addWithin (looks : Nat) (token : Token) : (page.addWithin looks token).Led := by
  induction looks generalizing page token with
  | zero => exact led
  | succ looks ih =>
    have taken := led.take token
    rw [Page.addWithin]
    split
    · next same =>
      rw [same] at taken
      exact taken
    · next again same =>
      rw [same] at taken
      exact ih taken again

theorem foldl_add (tokens : List Token) : (tokens.foldl add page).Led := by
  induction tokens generalizing page with
  | nil => exact led
  | cons token rest ih => exact ih (led.addWithin 10 token)

theorem exists_toTrees_cons :
    ∃ tree rest, page.toTrees = tree :: rest ∧ tree.content.Leads := by
  rw [toTrees]
  cases front : page.beforeHtml.reverse with
  | nil => exact ⟨_, _, rfl, rfl⟩
  | cons tree rest =>
    exact ⟨tree, _, rfl, led tree (List.mem_reverse.mp (front ▸ List.mem_cons_self))⟩

end Led

/-- **A page that is read begins as a page can.** -/
theorem leads_read (text : Text) :
    ∃ tree rest, read text = tree :: rest ∧ tree.content.Leads :=
  have blank : blank.Led := fun _ listed => absurd listed List.not_mem_nil
  (blank.foldl_add (Token.scan text)).exists_toTrees_cons

end Page

end Markup

end Polyglot
