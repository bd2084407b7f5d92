/-
# What is told of fields

What is wrong with the fields of a form comes field by field, in an order that means
nothing. The text that tells of it holds the message of every error, as often as it
occurs, and a message of its own making where an error has none (`told`). The messages
stand in ascending order (`Ascends`), and there is one such order only (`Ascends.unique`),
so the text is the same in whatever order the fields came (`told_in_one_order`).

Key definitions: `FieldError.told`, `told`, `Ascends`.
Key theorems: `Ascends.unique`, `told_perm`, `ascends_mergeSort`, `told_in_one_order`.
-/
import UserAccounts.Http.Form
import UserAccounts.Proofs.Text.ByteOrder

namespace UserAccounts.Http

/-- What is told of an error: its message, or that the field is invalid. -/
def FieldError.told (field : String) (fault : FieldError) : String :=
  match fault.message with
  | some message => message
  | none => field ++ " is invalid"

def told (errors : FieldErrors) : List String :=
  errors.flatMap fun entry => entry.2.map (FieldError.told entry.1)

/-- The messages are these, each as often, in the ascending order of their bytes. -/
structure Ascends (messages unsorted : List String) : Prop where
  perm : messages.Perm unsorted
  ascending : messages.Pairwise fun a b => Utf8.encode a ≤ Utf8.encode b

/-- There is one ascending order only. -/
theorem Ascends.unique {messages others unsorted : List String} (h : Ascends messages unsorted)
    (h' : Ascends others unsorted) : messages = others := by
  have hperm : messages.Perm others := h.perm.trans h'.perm.symm
  refine hperm.eq_of_pairwise (fun a b _ _ hab hba => ?_) h.ascending h'.ascending
  exact String.le_antisymm (Utf8.encode_le_iff.mp hab) (Utf8.encode_le_iff.mp hba)

theorem ascends_mergeSort (messages : List String) :
    Ascends (messages.mergeSort fun a b => decide (a ≤ b)) messages := by
  refine ⟨List.mergeSort_perm _ _, ?_⟩
  have htrans : ∀ a b c : String, decide (a ≤ b) = true → decide (b ≤ c) = true →
      decide (a ≤ c) = true := by
    intro a b c hab hbc
    exact decide_eq_true (String.le_trans (of_decide_eq_true hab) (of_decide_eq_true hbc))
  have htotal : ∀ a b : String, (decide (a ≤ b) || decide (b ≤ a)) = true := by
    intro a b
    simpa using String.le_total a b
  have hsorted : (messages.mergeSort fun a b => decide (a ≤ b)).Pairwise
      fun a b => decide (a ≤ b) = true := List.pairwise_mergeSort htrans htotal messages
  exact hsorted.imp fun hle => Utf8.encode_le_iff.mpr (of_decide_eq_true hle)

/-- In another order of the fields the same is told. -/
theorem told_perm {order errors : FieldErrors} (h : order.Perm errors) :
    (told order).Perm (told errors) :=
  h.flatMap_right _

theorem errorText_eq (errors : FieldErrors) :
    errorText errors = ", ".intercalate ((told errors).mergeSort fun a b => decide (a ≤ b)) := by
  have hmessage : ∀ field (fault : FieldError),
      fault.message.getD s!"{field} is invalid" = fault.told field := by
    intro field fault
    unfold FieldError.told
    cases fault.message <;> rfl
  have hmessages : (errors.flatMap fun entry =>
      entry.2.map fun fault => fault.message.getD s!"{entry.1} is invalid") = told errors := by
    simp only [hmessage]
    rfl
  unfold errorText
  rw [hmessages]

/-- **What is told of fields does not depend on their order.** There is one ascending order of all
messages, and whatever the order of the fields, the text holds the messages in this order, with
commas between them. -/
theorem told_in_one_order (errors : FieldErrors) :
    ∃ messages, Ascends messages (told errors) ∧
      (∀ others, Ascends others (told errors) → others = messages) ∧
      ∀ order : FieldErrors, order.Perm errors → errorText order = ", ".intercalate messages := by
  have hsorted := ascends_mergeSort (told errors)
  refine ⟨_, hsorted, fun others hothers => hothers.unique hsorted, ?_⟩
  intro order horder
  have hother : Ascends ((told order).mergeSort fun a b => decide (a ≤ b)) (told errors) :=
    ⟨(ascends_mergeSort (told order)).perm.trans (told_perm horder),
      (ascends_mergeSort (told order)).ascending⟩
  rw [errorText_eq, hother.unique hsorted]

/-- Two errors of one field have no message, and are both told, behind the other field. -/
theorem told_twice_behind_email :
    let plain : FieldError := { code := "length", message := none, value := "" }
    let named : FieldError := { code := "email", message := some "email is invalid", value := "x" }
    errorText [("name", [plain, plain]), ("email", [named])] =
        "email is invalid, name is invalid, name is invalid" ∧
      errorText [("email", [named]), ("name", [plain, plain])] =
        "email is invalid, name is invalid, name is invalid" := by
  intro plain named
  obtain ⟨messages, -, hunique, htext⟩ :=
    told_in_one_order [("name", [plain, plain]), ("email", [named])]
  have hmessages : ["email is invalid", "name is invalid", "name is invalid"] = messages := by
    refine hunique _ ⟨?_, by decide⟩
    have hperm : (["email is invalid"] ++ ["name is invalid", "name is invalid"]).Perm
        (["name is invalid", "name is invalid"] ++ ["email is invalid"]) := List.perm_append_comm
    exact hperm
  subst hmessages
  exact ⟨htext _ (.refl _), htext _ (.swap _ _ _)⟩

end UserAccounts.Http
