import Passbook.Statement

/-! # Writing statements

Statements are written one format after the other, each into the tree that the formats before it
left. Nothing but a file that cannot be written stops this.
-/
namespace Passbook.Statement
variable {base : String} {a : Account} {tree : FileTree} {format : StatementFormat}

end Passbook.Statement
