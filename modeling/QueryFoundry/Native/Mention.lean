import QueryFoundry.Native.Syntax

/-!
# Mentioned names

The names without a scope that occur in a piece of source. They tell which packs a pattern depends
on.
-/

namespace QueryFoundry.Native

open Text (Octets)

mutual

/-- The names that occur in a type. -/
def TypeExpr.mentioned : TypeExpr → List Octets
  | .plain _ | .automatic => []
  | .named name | .tagged _ name => name.mentioned
  | .pointer type | .reference type | .movedReference type | .const type | .expansion type =>
      type.mentioned
  | .array type length => type.mentioned ++ length.mentioned
  | .function result parameters _ _ => result.mentioned ++ statementNames parameters
  | .memberPointer owner type => owner.mentioned ++ type.mentioned
  | .ofExpression expression _ => expression.mentioned

/-- The names that occur in an expression. -/
def Expr.mentioned : Expr → List Octets
  | .absent | .integer .. | .real .. | .text .. | .nullPointer | .boolean _ | .this | .outermost =>
      []
  | .type type => type.mentioned
  | .name scope _ text arguments =>
      let inner := exprNames arguments
      match scope with
      | .absent => text :: inner
      | outer => outer.mentioned ++ inner
  | .unary _ operand | .step _ _ operand | .delete _ operand | .throw operand
  | .size operand _ | .expansion operand | .typeInfo operand | .noexcept operand =>
      operand.mentioned
  | .binary _ left right | .assign _ left right | .index left right =>
      left.mentioned ++ right.mentioned
  | .choice condition whenTrue whenFalse =>
      condition.mentioned ++ whenTrue.mentioned ++ whenFalse.mentioned
  | .call function arguments => function.mentioned ++ exprNames arguments
  | .member object _ name =>
      let inner := match name with
        | .name _ _ _ arguments => exprNames arguments
        | _ => []
      object.mentioned ++ inner
  | .cast _ type operand => type.mentioned ++ operand.mentioned
  | .construct type _ arguments => type.mentioned ++ exprNames arguments
  | .packSize name => [name]
  | .create place type initial => exprNames place ++ type.mentioned ++ initial.mentioned
  | .lambda captures definition _ => exprNames captures ++ definition.mentioned
  | .capture name _ initial => name :: initial.mentioned
  | .initial _ items => exprNames items
  | .fieldItem _ item => item.mentioned
  | .positionItem first last item => first.mentioned ++ last.mentioned ++ item.mentioned
  | .block body => body.mentioned
  | .fold _ first pack _ => first.mentioned ++ pack.mentioned
  | .generic operand cases => operand.mentioned ++ exprNames cases
  | .genericCase type value => type.mentioned ++ value.mentioned
  | .argument list type => list.mentioned ++ type.mentioned
  | .offset type member => type.mentioned ++ member.mentioned
  | .sameType left right => left.mentioned ++ right.mentioned
  | .base _ _ type => type.mentioned
  | .enumerator _ value => value.mentioned

/-- The names that occur in a statement. -/
def Statement.mentioned : Statement → List Octets
  | .empty | .leave | .again | .jump _ | .access _ | .templateParameter .. => []
  | .expression value | .finish value | .use value | .useNamespace value
  | .namespaceAlias _ value | .assertion value => value.mentioned
  | .block body | .group body | .namespace _ _ body => statementNames body
  | .branch _ condition whenTrue whenFalse =>
      condition.mentioned ++ whenTrue.mentioned ++ whenFalse.mentioned
  | .loop condition step body => condition.mentioned ++ step.mentioned ++ body.mentioned
  | .repeat body condition => body.mentioned ++ condition.mentioned
  | .forEach item range body => item.mentioned ++ range.mentioned ++ body.mentioned
  | .switch condition body => condition.mentioned ++ body.mentioned
  | .case first last next => first.mentioned ++ last.mentioned ++ next.mentioned
  | .otherwise next | .label _ next | .instantiate next => next.mentioned
  | .attempt body handlers => body.mentioned ++ statementNames handlers
  | .handler parameter body => parameter.mentioned ++ body.mentioned
  | .variable_ _ type width initial _ => type.mentioned ++ width.mentioned ++ initial.mentioned
  | .function _ type initializers body _ =>
      type.mentioned ++ exprNames initializers ++ body.mentioned
  | .bindings _ type initial => type.mentioned ++ initial.mentioned
  | .alias _ type => type.mentioned
  | .record _ _ bases members _ => exprNames bases ++ statementNames members
  | .enumeration _ _ _ type items => type.mentioned ++ exprNames items
  | .template parameters declaration => statementNames parameters ++ declaration.mentioned
  | .typeParameter _ _ standard => standard.mentioned

/-- The names that occur in expressions. -/
def exprNames : List Expr → List Octets
  | [] => []
  | first :: rest => first.mentioned ++ exprNames rest

/-- The names that occur in statements. -/
def statementNames : List Statement → List Octets
  | [] => []
  | first :: rest => first.mentioned ++ statementNames rest

end

end QueryFoundry.Native
