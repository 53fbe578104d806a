import PodInstrumentation.Proofs.Outcome
import PodInstrumentation.Telemetry.Template
/-!
What messages say. A template in which each percent sign is written twice and each argument has its
place reads, once it is filled in, like the text that it was made from with the arguments in their
places, in order and as messages show them. -/
namespace PodInstrumentation.Template

inductive Item where
  | letter (c : Char)
  | argument (j : Json)

namespace Item

def text : Item → List Char
  | letter c => if c = '%' then ['%', '%'] else [c]
  | argument _ => ['%', 's']

def shown : Item → List Char
  | letter c => [c]
  | argument j => j.display.toList

def argument? : Item → Option Json
  | letter _ => none
  | argument j => some j

end Item

theorem pieces_letter (length : Nat) (c : Char) (r : List Char) :
    pieces length ((Item.letter c).text ++ r) = .literal c :: pieces length r := by
  by_cases percent : c = '%'
  · subst percent
    simp [Item.text, pieces]
  · simp [Item.text, pieces, percent]

def plain (index : Nat) : Directive := ⟨.absent, [], .absent, .absent, some 's', index⟩

theorem pieces_argument (length : Nat) (j : Json) (r : List Char) :
    pieces length ((Item.argument j).text ++ r) =
      .directive (plain (length - (r.length + 1))) :: pieces length r := by
  have read : readDirective length ('s' :: r) = (plain (length - (r.length + 1)), r) := rfl
  simp [Item.text, pieces, read]

theorem fillDirective_plain (index : Nat) (members : Option Fields) (a : Json) (rest : List Json) :
    (fillDirective (plain index)).run ⟨members, a :: rest⟩ =
      .ok (a.display.toList, ⟨members, rest⟩) := by
  have fitted : (Written.ofText none a.display.toList).fit [] 0 = a.display.toList := by
    simp [Written.fit, Written.ofText]
  show Except.ok ((Written.ofText none a.display.toList).fit [] 0, _) = _
  rw [fitted]

/-- Each argument is taken when its place comes, and those that no place is left for stay. -/
theorem fill_pieces (items : List Item) (length : Nat) (members : Option Fields)
    (rest : List Json) :
    ((pieces length (items.flatMap Item.text)).mapM fillPiece).run
        ⟨members, items.filterMap Item.argument? ++ rest⟩ =
      .ok (items.map Item.shown, ⟨members, rest⟩) := by
  induction items with
  | nil =>
    rw [List.flatMap_nil, pieces]
    rfl
  | cons item items ih =>
    cases item with
    | letter c =>
      have kept : (Item.letter c :: items).filterMap Item.argument? =
          items.filterMap Item.argument? := rfl
      rw [List.flatMap_cons, pieces_letter, List.mapM_cons, kept]
      simp only [fillPiece, pure_bind, bind_pure_comp, StateT.run_map, ih]
      rfl
    | argument j =>
      have taken : (Item.argument j :: items).filterMap Item.argument? =
          j :: items.filterMap Item.argument? := rfl
      rw [List.flatMap_cons, pieces_argument, List.mapM_cons, taken, List.cons_append]
      simp only [fillPiece, bind_pure_comp, StateT.run_bind, StateT.run_map, fillDirective_plain,
        ok_bind, ih]
      rfl

theorem ofArguments_eq (args : List Json) :
    Supply.ofArguments args = ⟨(Supply.ofArguments args).members, args⟩ := by
  unfold Supply.ofArguments
  split <;> rfl

/-- With an argument for each place, a template says what it was made from. -/
theorem fill_items (items : List Item) (some : items.filterMap Item.argument? ≠ []) :
    fill (String.ofList (items.flatMap Item.text)) (items.filterMap Item.argument?) =
      .ok (String.ofList (items.flatMap Item.shown)) := by
  have filled := fill_pieces items (items.flatMap Item.text).length
    (Supply.ofArguments (items.filterMap Item.argument?)).members []
  rw [List.append_nil, ← ofArguments_eq] at filled
  have present : (items.filterMap Item.argument?).isEmpty = false := by simpa using some
  simp only [fill, present, Bool.false_eq_true, if_false, String.toList_ofList, filled, ok_bind,
    List.isEmpty_nil, Bool.not_true, Bool.and_false]
  rfl

/-- Arguments that are left over are an error, but for an object whose members are asked for. -/
theorem fill_items_left (items : List Item) {rest : List Json} (left : rest ≠ [])
    (listed : (Supply.ofArguments (items.filterMap Item.argument? ++ rest)).members = none) :
    fill (String.ofList (items.flatMap Item.text)) (items.filterMap Item.argument? ++ rest) =
      .error .misshapen := by
  have filled := fill_pieces items (items.flatMap Item.text).length none rest
  rw [← listed, ← ofArguments_eq] at filled
  have present : (items.filterMap Item.argument? ++ rest).isEmpty = false := by simp [left]
  have unused : rest.isEmpty = false := by simpa using left
  simp only [fill, present, Bool.false_eq_true, if_false, String.toList_ofList, filled, ok_bind,
    listed, unused, Option.isNone_none, Bool.not_false, Bool.and_true, if_true]
  rfl

example : fill "%s: 100%% of %s" [.str "cpu", .arr [.int 1, .null]] =
    .ok "cpu: 100% of [1, None]" := by decide +kernel

end PodInstrumentation.Template
