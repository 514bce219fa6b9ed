/-
# Beginnings of documents

A text read from left to right up to some place, at which a value is due: every container opened so
far has only complete items or members in it, and perhaps the name of the member that is due.  Such
a text can be completed to a document, and so can any beginning of it.

* `Opens` is what stands between the opening of a container and a value that is due inside;
* `Awaits` is a text after which a value is due, with the number of containers that may be opened;
* `Completable` says that a text is the beginning of a document;
* `Awaits.complete`: a value can follow wherever one is due, and the document goes on from there.
-/
import Mathlib
import StructuredText.Json.Parser
import StructuredText.Proofs.Json.Acceptance

namespace StructuredText.Json

open CodePoint (ofChar)

/-! ## Trees with a value -/

/-- A tree has a value with at most so many containers inside each other. -/
def Tree.Fits (levels : ℕ) (tree : Tree) : Prop := ∃ v, tree.value? levels = some v

theorem fits_null (levels : ℕ) : Tree.null.Fits levels := ⟨.null, rfl⟩

theorem fits_string (levels : ℕ) (parts : List StringPart) : (Tree.string parts).Fits levels :=
  ⟨_, rfl⟩

/-- An array has a value if all its items have one. -/
theorem fits_array {levels : ℕ} {items : List Tree} (h : ∀ tree ∈ items, tree.Fits levels) :
    (Tree.array items).Fits (levels + 1) := by
  obtain ⟨values, hvalues⟩ : ∃ values, itemsValue? levels items = some values := by
    induction items with
    | nil => exact ⟨[], rfl⟩
    | cons tree items ih =>
      obtain ⟨⟨v, hv⟩, hitems⟩ := List.forall_mem_cons.mp h
      obtain ⟨values, hvalues⟩ := ih hitems
      exact ⟨_, itemsValue?_cons_eq_some_iff.mpr ⟨v, hv, values, hvalues, rfl⟩⟩
  exact ⟨.array values, by rw [Tree.value?, hvalues, Option.map_some]⟩

/-- An object has a value if all its members have one. -/
theorem fits_object {levels : ℕ} {members : List (List StringPart × Tree)}
    (h : ∀ m ∈ members, m.2.Fits levels) : (Tree.object members).Fits (levels + 1) := by
  obtain ⟨written, hwritten⟩ : ∃ written, membersValue? levels members = some written := by
    induction members with
    | nil => exact ⟨[], rfl⟩
    | cons m members ih =>
      obtain ⟨⟨v, hv⟩, hmembers⟩ := List.forall_mem_cons.mp h
      obtain ⟨written, hwritten⟩ := ih hmembers
      exact ⟨_, membersValue?_cons_eq_some_iff.mpr ⟨v, hv, written, hwritten, rfl⟩⟩
  exact ⟨.object (membersOf written), by rw [Tree.value?, hwritten, Option.map_some]⟩

/-! ## Items and members before another one -/

/-- Items with a comma after each; there may be none. -/
inductive ItemsAhead : Text → List Tree → Prop
  | none : ItemsAhead [] []
  | some {t : Text} {items : List Tree} (h : ItemsText t items) :
      ItemsAhead (t ++ [ofChar ',']) items

/-- Members with a comma after each; there may be none. -/
inductive MembersAhead : Text → List (List StringPart × Tree) → Prop
  | none : MembersAhead [] []
  | some {t : Text} {members : List (List StringPart × Tree)} (h : MembersText t members) :
      MembersAhead (t ++ [ofChar ',']) members

theorem ItemsText.append {t t' : Text} {items items' : List Tree} (h : ItemsText t items)
    (h' : ItemsText t' items') : ItemsText (t ++ ofChar ',' :: t') (items ++ items') := by
  induction items generalizing t with
  | nil => cases h
  | cons tree items ih =>
    cases h with
    | last hw hv hw' => exact .more hw hv hw' h'
    | more hw hv hw' rest =>
      have hmore := ItemsText.more hw hv hw' (ih rest)
      simpa only [List.append_assoc, List.cons_append] using hmore

theorem MembersText.append {t t' : Text} {members members' : List (List StringPart × Tree)}
    (h : MembersText t members) (h' : MembersText t' members') :
    MembersText (t ++ ofChar ',' :: t') (members ++ members') := by
  induction members generalizing t with
  | nil => cases h
  | cons m members ih =>
    cases h with
    | last hm => exact .more hm h'
    | more hm rest =>
      have hmore := MembersText.more hm (ih rest)
      simpa only [List.append_assoc, List.cons_append] using hmore

theorem ItemsAhead.append {ts t : Text} {items items' : List Tree} (h : ItemsAhead ts items)
    (h' : ItemsText t items') : ItemsText (ts ++ t) (items ++ items') := by
  cases h with
  | none => exact h'
  | some h => simpa only [List.append_assoc, List.singleton_append] using h.append h'

theorem MembersAhead.append {ts t : Text} {members members' : List (List StringPart × Tree)}
    (h : MembersAhead ts members) (h' : MembersText t members') :
    MembersText (ts ++ t) (members ++ members') := by
  cases h with
  | none => exact h'
  | some h => simpa only [List.append_assoc, List.singleton_append] using h.append h'

/-! ## Containers -/

/-- A member from its name to the colon. -/
inductive KeyText : Text → Prop
  | mk {k w : Text} {parts : List StringPart} (hk : PartsText k parts) (hw : Blanks w) :
      KeyText (ofChar '"' :: (k ++ ofChar '"' :: (w ++ [ofChar ':'])))

/-- What stands between the opening of a container and a value that is due inside, where at most so
many containers may stand inside each other in each value. -/
inductive Opens (levels : ℕ) : Text → Prop
  | item {ts w : Text} {items : List Tree} (ahead : ItemsAhead ts items)
      (fits : ∀ tree ∈ items, tree.Fits levels) (hw : Blanks w) :
      Opens levels (ofChar '[' :: (ts ++ w))
  | member {ts w k w' : Text} {members : List (List StringPart × Tree)}
      (ahead : MembersAhead ts members) (fits : ∀ m ∈ members, m.2.Fits levels) (hw : Blanks w)
      (hk : KeyText k) (hw' : Blanks w') :
      Opens levels (ofChar '{' :: (ts ++ (w ++ (k ++ w'))))

/-- **A container can be closed** after the value that is due. -/
theorem Opens.close {levels : ℕ} {o t : Text} {tree : Tree} (h : Opens levels o)
    (ht : ValueText t tree) (hfits : tree.Fits levels) :
    ∃ after tree', ValueText (o ++ (t ++ after)) tree' ∧ tree'.Fits (levels + 1) := by
  cases h with
  | @item ts w items ahead fits hw =>
    refine ⟨[ofChar ']'], .array (items ++ [tree]), ?_, ?_⟩
    · simpa using ValueText.array (ahead.append (.last hw ht .nil))
    · exact fits_array (List.forall_mem_append.mpr ⟨fits, List.forall_mem_singleton.mpr hfits⟩)
  | @member ts w k w' members ahead fits hw hk hw' =>
    obtain @⟨k, w₁, parts, hparts, hcolon⟩ := hk
    refine ⟨[ofChar '}'], .object (members ++ [(parts, tree)]), ?_, ?_⟩
    · simpa using ValueText.object (ahead.append (.last (.mk hw hparts hcolon hw' ht .nil)))
    · exact fits_object (List.forall_mem_append.mpr ⟨fits, List.forall_mem_singleton.mpr hfits⟩)

/-! ## Beginnings -/

/-- A text after which a value is due; at most `levels` containers may stand inside each other in
the document and at most `left` in that value. -/
inductive Awaits (levels : ℕ) : ℕ → Text → Prop
  | start {w : Text} (hw : Blanks w) : Awaits levels levels w
  | inside {left : ℕ} {b o : Text} (h : Awaits levels (left + 1) b) (ho : Opens left o) :
      Awaits levels left (b ++ o)

/-- Each container that was opened took some of the text. -/
theorem Awaits.levels_le {levels left : ℕ} {b : Text} (h : Awaits levels left b) :
    levels ≤ left + b.length := by
  induction h with
  | start => omega
  | @inside left b o _ ho ih =>
    have hlength : 0 < o.length := by cases ho <;> simp
    rw [List.length_append]
    omega

/-- A text that some document of at most so many levels begins with. -/
def Completable (levels : ℕ) (b : Text) : Prop :=
  ∃ after v, parseWithin levels (b ++ after) = .ok v

theorem Completable.of_append {levels : ℕ} {b t : Text} (h : Completable levels (b ++ t)) :
    Completable levels b := by
  obtain ⟨after, v, hv⟩ := h
  exact ⟨t ++ after, v, by rw [← List.append_assoc, hv]⟩

/-- A document is one of its own beginnings. -/
theorem completable_of_documentText {levels : ℕ} {text : Text} {tree : Tree}
    (h : DocumentText text tree) (hfits : tree.Fits levels) : Completable levels text := by
  obtain ⟨v, hv⟩ := hfits
  refine ⟨[], v, ?_⟩
  rw [List.append_nil, parseWithin_eq_ok_iff h]
  exact (tree.value?_eq_some_iff levels v).mp hv

/-- **A value can follow** where one is due, and the document can be completed after it. -/
theorem Awaits.complete {levels left : ℕ} {b t : Text} {tree : Tree} (h : Awaits levels left b)
    (ht : ValueText t tree) (hfits : tree.Fits left) : Completable levels (b ++ t) := by
  induction h generalizing t tree with
  | start hw =>
    have hdocument := DocumentText.mk hw ht .nil
    rw [List.append_nil] at hdocument
    exact completable_of_documentText hdocument hfits
  | inside _ ho ih =>
    obtain ⟨after, tree', ht', hfits'⟩ := ho.close ht hfits
    have hclosed := ih ht' hfits'
    rw [← List.append_assoc, ← List.append_assoc] at hclosed
    exact hclosed.of_append

/-- **A text after which a value is due can be completed.** -/
theorem Awaits.completable {levels left : ℕ} {b : Text} (h : Awaits levels left b) :
    Completable levels b :=
  (h.complete .null (fits_null left)).of_append

/-- An array can be completed behind its items. -/
theorem Awaits.completable_items {levels left : ℕ} {b t : Text} {items : List Tree}
    (h : Awaits levels (left + 1) b) (hitems : ItemsText t items)
    (fits : ∀ tree ∈ items, tree.Fits left) : Completable levels (b ++ ofChar '[' :: t) := by
  have hnext := (h.inside (.item (.some hitems) fits .nil)).completable
  have htext : b ++ ofChar '[' :: (t ++ [ofChar ','] ++ []) =
      b ++ ofChar '[' :: t ++ [ofChar ','] := by simp
  rw [htext] at hnext
  exact hnext.of_append

/-- An object can be completed behind the name of a member. -/
theorem Awaits.completable_key {levels left : ℕ} {b ts w k : Text}
    {members : List (List StringPart × Tree)} (h : Awaits levels (left + 1) b)
    (ahead : MembersAhead ts members) (fits : ∀ m ∈ members, m.2.Fits left) (hw : Blanks w)
    (hk : KeyText k) : Completable levels (b ++ ofChar '{' :: (ts ++ w) ++ k) := by
  have hvalue := (h.inside (.member ahead fits hw hk .nil)).completable
  simpa using hvalue

/-- An object can be completed behind its members. -/
theorem Awaits.completable_members {levels left : ℕ} {b t : Text}
    {members : List (List StringPart × Tree)} (h : Awaits levels (left + 1) b)
    (hmembers : MembersText t members) (fits : ∀ m ∈ members, m.2.Fits left) :
    Completable levels (b ++ ofChar '{' :: t) := by
  have hnext := h.completable_key (.some hmembers) fits .nil (.mk .nil .nil)
  have htext : ∀ k, b ++ ofChar '{' :: (t ++ [ofChar ','] ++ []) ++ k =
      b ++ ofChar '{' :: t ++ (ofChar ',' :: k) := by simp
  rw [htext] at hnext
  exact hnext.of_append

end StructuredText.Json
