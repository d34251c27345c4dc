import AfsToken.Text.Decimal

/-!
# Encryption types

Kerberos numbers its encryption types.  The types up to 16 are single and Triple DES and some that
were set aside for other uses; each belongs to one class.  A negative number is a private
assignment.
-/

namespace AfsToken

/-- The number of an encryption type. -/
abbrev Enctype := Int32

namespace Enctype

/-- No encryption. -/
def null : Enctype := 0

/-- Single DES, with a key that can be used as it is. -/
def singleDes : List Enctype := [1, 2, 3]

/-- Triple DES. -/
def tripleDes : List Enctype := [5, 7, 16]

/-- Types that are excluded for their weakness. -/
def deprecated : List Enctype := [4, 6, 8]

/-- Types without a symmetric key: none at all, the asymmetric ones and those of sealed messages. -/
def notSymmetric : List Enctype := [null, 9, 10, 11, 12, 13, 14, 15]

/-- The names of the known types. -/
def names : List (Enctype × String) :=
  [(null, "null"), (1, "des-cbc-crc"), (2, "des-cbc-md4"), (3, "des-cbc-md5"), (4, "des-cbc-raw"),
   (5, "des3-cbc-md5"), (6, "des3-cbc-raw"), (7, "des3-cbc-sha1"), (8, "des-hmac-sha1"),
   (9, "dsa-sha1-cms"), (10, "md5-rsa-cms"), (11, "sha1-rsa-cms"), (12, "rc2-cbc-env"),
   (13, "rsa-env"), (14, "rsa-es-oaep-env"), (15, "des3-cbc-env"), (16, "des3-cbc-sha1-kd"),
   (17, "aes128-cts-hmac-sha1-96"), (18, "aes256-cts-hmac-sha1-96"), (23, "rc4-hmac"),
   (24, "rc4-hmac-exp"), (-135, "rc4-hmac-old-exp")]

/-- The name of a type, or three question marks. -/
def name (etype : Enctype) : String := (names.lookup etype).getD "???"

/-- The number of a type with its name. -/
def describe (etype : Enctype) : String :=
  Text.Decimal.ofInt etype.toInt ++ " -> " ++ name etype

end Enctype

end AfsToken
