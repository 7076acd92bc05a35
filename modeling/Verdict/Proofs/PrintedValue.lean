import Verdict.Command.Run
import Verdict.Proofs.Json.Writing
import Verdict.Proofs.OperandText

/-! Printed values as operands. What one verb prints another takes for the same value: the text is
read as a scalar and never as a token, whatever the characters of a string are. Only two halves of a
character that stand side by side in a string come back as one. -/

namespace Verdict

attribute [local instance] powOfNatPow

namespace Json

variable {text : List Point} {v : Value}

theorem WritesScalar.parse?_eq_none (h : WritesScalar text v) : Token.parse? text = none := by
  by_contra htoken
  exact (h.head _ (Token.head?_of_parse? htoken)).2 rfl

theorem WritesScalar.writes (h : WritesScalar text v) : Writes text v := by
  have hnone : ∀ c ∈ ([] : List Point), isBlank c = true := by simp
  have hpadded := Writes.padded hnone hnone h
  rwa [List.nil_append, List.append_nil] at hpadded

end Json

/-- The text of a scalar is read as the literal of that scalar. -/
theorem Operand.read_of_writesScalar {levels : Nat} {text : Text} {v : Value}
    (h : Json.WritesScalar text.toList v) (hnan : v.isNaN = false) :
    read levels text = .ok (.literal v) := by
  rw [read_of_writes h.parse?_eq_none h.writes, hnan, if_neg Bool.false_ne_true]

theorem Value.isNaN_joined (v : Value) : v.joined.isNaN = v.isNaN := by
  cases v <;> rfl

/-- What the verb that resolves prints: the text of the value on a line of its own. -/
theorem Command.Request.answer_resolve {r : Request} (hverb : r.verb = .resolve) {levels : Nat}
    {e : Engine} {values : Values} {v : Value} {text : Text}
    (hv : (e.resolve (r.operands.head?.getD .null) values).outcome = .ok v)
    (htext : Json.writeValue v = .ok text) :
    (r.answer levels e values).outcome = .ok { status := 0, output := text ++ "\n" } := by
  rw [answer, hverb]
  dsimp only
  rw [Traced.bind_of_ok hv, htext]
  rfl

namespace Operand

/-- A value that is neither absent nor NaN has a text, unless it is an integer of too many digits.
This text is what the verb that resolves prints, and as an operand it is the literal of that very
value, but that the halves of characters in a string are joined: the value is another one if a high
half stands right before a low one there, and otherwise never. -/
theorem read_printed {v : Value} (habsent : v ≠ .absent) (hnan : v.isNaN = false)
    (hfits : ∀ n : Int, v = .number (.int n) → n.natAbs < 10 ^ digitLimit) :
    ∃ text, Json.writeValue v = .ok text ∧
      (∀ levels, read levels text = .ok (.literal v.joined)) ∧
      (v.joined = v ↔ ∀ s, v = .string s → s.toList.IsChain fun c d => ¬ Text.IsPair c d) ∧
      ∀ (r : Command.Request) (levels : Nat) (e : Engine) (values : Values), r.verb = .resolve →
        (e.resolve (r.operands.head?.getD .null) values).outcome = .ok v →
        (r.answer levels e values).outcome = .ok { status := 0, output := text ++ "\n" } := by
  obtain ⟨text, htext, hwrites⟩ :=
    Json.exists_writesScalar habsent hnan fun n hn => decide_eq_true (hfits n hn)
  have hjoined : v.joined.isNaN = false := by rw [Value.isNaN_joined, hnan]
  exact ⟨text, htext, fun _ => read_of_writesScalar hwrites hjoined, Value.joined_eq_self_iff,
    fun _ _ _ _ hverb hv => Command.Request.answer_resolve hverb hv htext⟩

/-- A string that spells a token, with a quote, a control character and a character beyond the
16-bit range in it. -/
theorem read_printed_token_spelling :
    read 993 "\"\x7b\x7bday\x7d\x7d\\\"\\\\\\u0007\\u00e9\\ud83d\\ude00\"" =
      .ok (.literal (.string "\x7b\x7bday\x7d\x7d\"\\\x07é😀")) := by
  obtain ⟨text, htext, hread, -⟩ := read_printed (v := .string "\x7b\x7bday\x7d\x7d\"\\\x07é😀")
    Value.noConfusion rfl fun n hn => Value.noConfusion hn
  have hprinted : Json.writeValue (.string "\x7b\x7bday\x7d\x7d\"\\\x07é😀") =
      .ok "\"\x7b\x7bday\x7d\x7d\\\"\\\\\\u0007\\u00e9\\ud83d\\ude00\"" := by decide +kernel
  have hjoined : Value.joined (.string "\x7b\x7bday\x7d\x7d\"\\\x07é😀") =
      .string "\x7b\x7bday\x7d\x7d\"\\\x07é😀" := by decide +kernel
  rw [hprinted] at htext
  cases htext
  rw [hread, hjoined]

/-- The two halves of a character, each a point of its own, are printed like the character. -/
theorem read_printed_halves :
    Json.writeValue (.string (.ofList [.ofNat 0xd83d, .ofNat 0xde00])) =
      .ok "\"\\ud83d\\ude00\"" ∧
    read 993 "\"\\ud83d\\ude00\"" = .ok (.literal (.string "😀")) ∧
    Value.string "😀" ≠ .string (.ofList [.ofNat 0xd83d, .ofNat 0xde00]) := by
  have hprinted : Json.writeValue (.string (.ofList [.ofNat 0xd83d, .ofNat 0xde00])) =
      .ok "\"\\ud83d\\ude00\"" := by decide +kernel
  have hjoined : Text.joinPairs [.ofNat 0xd83d, .ofNat 0xde00] = [.char '😀'] := by decide +kernel
  have hspells := Json.spells_escape [.ofNat 0xd83d, .ofNat 0xde00]
  rw [hjoined] at hspells
  exact ⟨hprinted, read_of_writesScalar (.string hspells) rfl, by decide⟩

end Operand

end Verdict
