/-
# Answers are read back

The body of an answer is well formed whatever the texts in it, and reading it, with no
more known of it than that it is JSON, gives an object with the members that the
answer has to have and no others, each with its text as it was (`answers_read_back`).
Names, addresses, messages and details may hold any characters.

Key definitions: `Response.Spells`, `textsRead`, `detailsRead`.
Key theorems: `spells_of_fits`, `answers_read_back`.
-/
import UserAccounts.Proofs.Http.Failures
import UserAccounts.Proofs.Json.Grammar
import UserAccounts.Proofs.Json.Tree

namespace UserAccounts.Http

/-- The body of the response is well formed, and read as this value. -/
structure Response.Spells (response : Response) (value : Json.Tree) : Prop where
  wellFormed : Json.IsText response.body
  read : Json.readDocument (Utf8.encode response.body) = some value

/-- Texts under keys, as they are read. -/
def textsRead (entries : List (String × String)) : List (String × Json.Tree) :=
  entries.map fun entry => (entry.1, .text entry.2)

/-- The details that are read of a failure: those of a complaint, if there are any. -/
def detailsRead : Failure → List (String × Json.Tree)
  | .invalid complaint =>
    if complaint.details.entries = [] then []
    else [("details", .object (textsRead complaint.details.entries))]
  | _ => []

theorem spells_of_fits {members : List (String × Json.Value)}
    (h : (Json.Value.object members).FitsWithin Json.mostDepth) (status : Nat) :
    (Response.json status (.object members)).Spells (.object (Json.treesOf members)) :=
  ⟨Json.Value.isText _, Json.readDocument_written h⟩

/-- An object of texts is not too deep for anything that holds an object. -/
theorem texts_fit (entries : List (String × String)) (depth : Nat) :
    (Json.Value.object (entries.map fun entry => (entry.1, .text entry.2))).FitsWithin
      (depth + 1) := by
  rw [Json.Value.fitsWithin_object]
  intro member hmem
  obtain ⟨entry, -, rfl⟩ := List.mem_map.mp hmem
  exact Json.Value.fitsWithin_text depth entry.2

section

variable {failure : Failure}

theorem detailsRead_eq (failure : Failure) :
    detailsRead failure = if failure.details.entries = [] then []
      else [("details", .object (textsRead failure.details.entries))] := by
  cases failure <;> rfl

theorem failureBody_of_entries (h : failure.details.entries ≠ []) :
    failureBody failure =
      .object [("error", .object [("code", .text failure.code),
        ("message", .text failure.publicMessage),
        ("details", .object (failure.details.entries.map fun e => (e.1, .text e.2)))])] := by
  have hsome : failure.details.isEmpty = false := by
    unfold Details.isEmpty
    rwa [List.isEmpty_eq_false_iff]
  unfold failureBody
  rw [hsome]
  rfl

theorem spells_failure (failure : Failure) :
    (failureResponse failure).Spells
      (.object [("error", .object ([("code", .text failure.code),
        ("message", .text failure.publicMessage)] ++ detailsRead failure))]) := by
  rw [detailsRead_eq, failureResponse]
  by_cases hnone : failure.details.entries = []
  · have hdetails : failure.details = .none := congrArg Details.mk hnone
    have hfits : (errorBody failure.code failure.publicMessage).FitsWithin 127 := by
      simp [errorBody]
    rw [if_pos hnone, failureBody_of_details hdetails]
    exact spells_of_fits hfits failure.status
  · have herror : (Json.Value.object [("code", .text failure.code),
        ("message", .text failure.publicMessage),
        ("details", .object (failure.details.entries.map fun e => (e.1, .text e.2)))]).FitsWithin
          126 := by
      rw [Json.Value.fitsWithin_object]
      simp only [List.forall_mem_cons]
      exact ⟨Json.Value.fitsWithin_text _ _, Json.Value.fitsWithin_text _ _, texts_fit _ _, by simp⟩
    have hfits : (failureBody failure).FitsWithin 127 := by
      rw [failureBody_of_entries hnone, Json.Value.fitsWithin_object]
      exact List.forall_mem_singleton.mpr herror
    rw [failureBody_of_entries hnone] at hfits ⊢
    rw [if_neg hnone]
    have hspells := spells_of_fits hfits failure.status
    simp only [Json.treesOf, Json.Value.tree, Json.treesOf_texts] at hspells
    exact hspells

end

/-- **Answers are read back.** The bodies for who has signed up, for who has logged in and for a
failure are well formed, and read as objects with just these members, each with its own text.
Details are read as they are, in their order, and there are none if there were none or if the
failure is not the input's. -/
theorem answers_read_back :
    (∀ output : SignupOutput, (Response.json 201 (signupBody output)).Spells
      (.object [("id", .text output.id.toText), ("name", .text output.name),
        ("email", .text output.email), ("status", .text output.status.code),
        ("createdAt", .text (output.createdAt.toText .seconds))])) ∧
    (∀ output : LoginOutput, (Response.json 200 (loginBody output)).Spells
      (.object [("token", .text output.token),
        ("expiresAt", .text (output.expiresAt.toText .seconds)),
        ("user", .object [("id", .text output.userId.toText), ("name", .text output.userName),
          ("email", .text output.userEmail)])])) ∧
    ∀ failure : Failure, (failureResponse failure).Spells
      (.object [("error", .object ([("code", .text failure.code),
        ("message", .text failure.publicMessage)] ++ detailsRead failure))]) := by
  refine ⟨?_, ?_, ?_⟩
  · intro output
    have hfits : (signupBody output).FitsWithin 127 := by simp [signupBody]
    exact spells_of_fits hfits 201
  · intro output
    have hfits : (loginBody output).FitsWithin 127 := by simp [loginBody]
    exact spells_of_fits hfits 200
  · exact spells_failure

end UserAccounts.Http
