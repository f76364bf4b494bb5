import ExpandContract.Json.Parser
import ExpandContract.Proofs.Json.Lexing

/-!
# Reading the texts of a value

From the tokens of a value the parser comes to the value, whatever is open around it
(`Json.foldlM_tokens`), so every text of a value is read as the value (`Json.parse?_of_surrounded`),
and what the printer writes is read back (`Json.parse?_render`).
-/

set_option autoImplicit false

namespace ExpandContract.Json

/-- Where the first item of an array may stand, a value is begun as anywhere else. -/
theorem step_valueOrClose {frames : List Frame} {token : Token} (other : token ≠ .closeArray) :
    Progress.step ⟨.valueOrClose, frames⟩ token = Progress.step ⟨.value, frames⟩ token := by
  unfold Progress.step
  split <;> simp_all

/-- A value does not begin with a closing bracket. -/
theorem exists_tokens_eq_cons (v : Json) :
    ∃ first others, v.tokens = first :: others ∧ first ≠ .closeArray := by
  cases v <;> exact ⟨_, _, rfl, by simp⟩

theorem exists_itemTokens_eq_cons (item : Json) (rest : List Json) :
    ∃ first others, itemTokens (item :: rest) = first :: others ∧ first ≠ .closeArray := by
  obtain ⟨first, others, begins, notClose⟩ := exists_tokens_eq_cons item
  cases rest with
  | nil => exact ⟨first, others, begins, notClose⟩
  | cons next rest =>
      have whole : itemTokens (item :: next :: rest) =
          first :: (others ++ .comma :: itemTokens (next :: rest)) := by
        rw [itemTokens.eq_3 _ _ (by simp), begins, List.cons_append]
      exact ⟨first, _, whole, notClose⟩

mutual

/-- The tokens of a value make the value, whatever is open around it. -/
theorem foldlM_tokens : ∀ (v : Json) (frames : List Frame) (rest : List Token),
    (v.tokens ++ rest).foldlM Progress.step ⟨.value, frames⟩ =
      rest.foldlM Progress.step ⟨.after v, frames⟩
  | .null, _, _ | .bool _, _, _ | .number _, _, _ | .string _, _, _ | .unreadable, _, _ => rfl
  | .array [], _, _ | .object [], _, _ => rfl
  | .array (item :: items), frames, rest => by
      have inside := foldlM_itemTokens (item :: items) (by simp) [] frames rest
      obtain ⟨first, others, begins, notClose⟩ := exists_itemTokens_eq_cons item items
      rw [begins, List.cons_append, List.foldlM_cons] at inside
      rw [tokens, begins, List.append_assoc, List.singleton_append]
      change (Progress.step ⟨.valueOrClose, .array [] :: frames⟩ first >>= _) = _
      rw [step_valueOrClose notClose]
      exact inside
  | .object (member :: members), frames, rest => by
      have inside := foldlM_memberTokens (member :: members) (by simp) [] frames rest
      rw [tokens, List.append_assoc, List.singleton_append]
      cases members <;> exact inside

/-- The items of an array are put together from the first to the last. -/
theorem foldlM_itemTokens : ∀ (items : List Json), items ≠ [] →
    ∀ (done : List Json) (frames : List Frame) (rest : List Token),
    (itemTokens items ++ .closeArray :: rest).foldlM Progress.step
        ⟨.value, .array done :: frames⟩ =
      rest.foldlM Progress.step ⟨.after (.array (done.reverse ++ items)), frames⟩
  | [], notNil, _, _, _ => absurd rfl notNil
  | [item], _, done, frames, rest => by
      rw [itemTokens, foldlM_tokens item]
      simp [Progress.step]
  | item :: next :: items, _, done, frames, rest => by
      have others := foldlM_itemTokens (next :: items) (by simp) (item :: done) frames rest
      rw [List.reverse_cons, List.append_assoc, List.singleton_append] at others
      rw [itemTokens.eq_3 _ _ (by simp), List.append_assoc, foldlM_tokens item]
      exact others

/-- The members of an object are put together from the first to the last. -/
theorem foldlM_memberTokens : ∀ (members : List (String × Json)), members ≠ [] →
    ∀ (done : List (String × Json)) (frames : List Frame) (rest : List Token),
    (memberTokens members ++ .closeObject :: rest).foldlM Progress.step
        ⟨.name, .object done true :: frames⟩ =
      rest.foldlM Progress.step ⟨.after (.object (done.reverse ++ members)), frames⟩
  | [], notNil, _, _, _ => absurd rfl notNil
  | [(name, value)], _, done, frames, rest => by
      have inside := foldlM_tokens value (.member done true (some name) :: frames)
        (.closeObject :: rest)
      have ended : ((name, value) :: done).reverse = done.reverse ++ [(name, value)] :=
        List.reverse_cons
      rw [← ended]
      exact inside
  | (name, value) :: next :: members, _, done, frames, rest => by
      have others := foldlM_memberTokens (next :: members) (by simp) ((name, value) :: done) frames
        rest
      have inside := foldlM_tokens value (.member done true (some name) :: frames)
        (.comma :: memberTokens (next :: members) ++ .closeObject :: rest)
      rw [List.reverse_cons, List.append_assoc, List.singleton_append] at others
      rw [memberTokens.eq_3 _ _ _ (by simp), List.append_assoc]
      exact inside.trans others

end

/-- The tokens of a value are read as the value. -/
theorem ofTokens?_tokens (v : Json) : ofTokens? v.tokens = some v := by
  have read := foldlM_tokens v [] []
  rw [List.append_nil] at read
  rw [ofTokens?, Progress.start, read]
  rfl

/-- Every text of a value, with white space around it or not, is read as the value. -/
theorem parse?_of_surrounded {v : Json} {text : String}
    (written : Surrounded v.Spells text.toList) : parse? text = some v := by
  rw [parse?, lex?_of_surrounded written]
  exact ofTokens?_tokens v

/-- What the printer writes is read back. -/
theorem parse?_render {v : Json} (readable : v.Readable) : parse? v.render = some v := by
  apply parse?_of_surrounded
  rw [render, String.toList_ofList]
  exact .bare (spells_print v readable)

end ExpandContract.Json
