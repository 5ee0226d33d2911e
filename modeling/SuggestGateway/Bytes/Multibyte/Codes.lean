import SuggestGateway.Bytes.Multibyte.Rows1
import SuggestGateway.Bytes.Multibyte.Rows2
import SuggestGateway.Bytes.Multibyte.Rows3
import SuggestGateway.Bytes.Multibyte.Rows4
import SuggestGateway.Bytes.Multibyte.Rows5
import SuggestGateway.Text.RunTable
/-!
# Multibyte codes

The codes of East Asian scripts that spell a character with one byte or with a lead byte and a
trail byte: Big5 and its Hong Kong and Windows forms, GB 2312, GBK and GB 18030, EUC-KR, the
unified Hangul code and Johab, EUC-JP and Shift JIS with their Windows and JIS X 0213 forms.

A code is given by what each byte stands for alone and by a row of pairs for each lead byte,
shared among codes where they agree. A few codes have longer sequences: three bytes after
`0x8F` in the EUC forms of Japanese, four bytes in GB 18030 when the second is a digit, and
the eight-byte spelling of a Hangul syllable by its letters in EUC-KR.
-/
namespace SuggestGateway

/-- The rows of all multibyte codes: the first trail byte a row covers, and per trail byte from
there the character of the pair. -/
def multibyteRows : Array (Nat × Array Char) :=
  ((multibyteRows1 ++ multibyteRows2 ++ multibyteRows3 ++ multibyteRows4 ++ multibyteRows5).map fun (lo, s) => (lo, s.toList.toArray)).toArray

/-- The pairs whose image is not one character, by row and trail byte (`256 * row + trail`):
their images, empty for a pair that is a problem of both its bytes. -/
def multibyteExceptions : CodeMap := CodeMap.parse <| String.join [
    "5962:ca 304,5964:ca 30c,59a3:ea 304,59a5:ea 30c,39ef7:304b 309a,39ef8:304d 309a,",
    "39ef9:304f 309a,39efa:3051 309a,39efb:3053 309a,39ff7:30ab 309a,39ff8:30ad 309a,",
    "39ff9:30af 309a,39ffa:30b1 309a,39ffb:30b3 309a,39ffc:30bb 309a,39ffd:30c4 309a,",
    "39ffe:30c8 309a,3a0f8:31f7 309a,3a5c4:e6 300,3a5c8:254 300,3a5c9:254 301,3a5ca:28c 300,",
    "3a5cb:28c 301,3a5cc:259 300,3a5cd:259 301,3a5ce:25a 300,3a5cf:25a 301,3a5e5:2e9 2e5,",
    "3a5e6:2e5 2e9,3d0a1:,3d1fe:,3d2d4:,3d2fe:,3d3a7:,3d4fa:,3d4fb:,3d4fc:,3d4fd:,3d4fe:,",
    "3d7f5:304b 309a,3d7f6:304d 309a,3d7f7:304f 309a,3d7f8:3051 309a,3d7f9:3053 309a,",
    "3d897:30ab 309a,3d898:30ad 309a,3d899:30af 309a,3d89a:30b1 309a,3d89b:30b3 309a,",
    "3d89c:30bb 309a,3d89d:30c4 309a,3d89e:30c8 309a,3d8f6:31f7 309a,3db63:e6 300,3db67:254 300,",
    "3db68:254 301,3db69:28c 300,3db6a:28c 301,3db6b:259 300,3db6c:259 301,3db6d:25a 300,",
    "3db6e:25a 301,3db85:2e9 2e5,3db86:2e5 2e9,3f29f:,3f39e:,3f473:,3f49e:,3f5a5:,3f6f8:,3f6f9:,",
    "3f6fa:,3f6fb:,3f6fc:,"]

/-- The four-byte sequences of GB 18030 below U+10000, by their linear index from
`81 30 81 30`: where each run of consecutive code points starts, and its first code point. -/
def gbFourByteRuns : RunTable := RunTable.parse <| String.join [
    "0:80,24:a5,26:a9,2d:b2,32:b8,51:d8,59:e2,5f:eb,60:ee,64:f4,67:f8,68:fb,69:fd,6d:102,7e:114,",
    "85:11c,94:12c,ac:145,af:149,b3:14e,d0:16c,132:1cf,133:1d1,134:1d3,135:1d5,136:1d7,137:1d9,",
    "138:1db,139:1dd,155:1fa,1ac:252,1bb:262,220:2c8,221:2cc,22e:2da,2e5:3a2,2e6:3aa,2ed:3c2,",
    "2ee:3ca,325:402,333:450,334:452,1ef2:2011,1ef4:2017,1ef5:201a,1ef7:201e,1efe:2027,1f07:2031,",
    "1f08:2034,1f09:2036,1f0e:203c,1f7e:20ad,1fd4:2104,1fd5:2106,1fd8:210a,1fe4:2117,1fee:2122,",
    "202c:216c,2030:217a,2046:2194,2048:219a,20b6:2209,20bc:2210,20bd:2212,20c0:2216,20c4:221b,",
    "20c6:2221,20c8:2224,20c9:2226,20ca:222c,20cc:222f,20d1:2238,20d6:223e,20e0:2249,20e3:224d,",
    "20e8:2253,20f5:2262,20f7:2268,20fd:2270,2122:2296,2125:229a,2130:22a6,2149:22c0,219b:2313,",
    "22e8:246a,22f2:249c,2356:254c,235a:2574,2367:2590,236a:2596,2374:25a2,2384:25b4,238c:25be,",
    "2394:25c8,2397:25cc,2399:25d0,23ab:25e6,23ca:2607,23cc:260a,2402:2641,2403:2643,2c41:2e82,",
    "2c43:2e85,2c46:2e89,2c48:2e8d,2c52:2e98,2c61:2ea8,2c63:2eab,2c66:2eaf,2c6a:2eb4,2c6c:2eb8,",
    "2c6f:2ebc,2c7d:2ecb,2da2:2ffc,2da6:3004,2da7:3018,2dac:301f,2dae:302a,2dc2:303f,2dc4:3094,",
    "2dcb:309f,2dcd:30f7,2dd2:30ff,2dd8:312a,2ece:322a,2ed5:3232,2f46:32a4,3030:3390,303c:339f,",
    "303e:33a2,3060:33c5,3069:33cf,306b:33d3,306d:33d6,30de:3448,3109:3474,3233:359f,32a2:360f,",
    "32ad:361b,35aa:3919,35ff:396f,365f:39d1,366d:39e0,3700:3a74,37da:3b4f,38f9:3c6f,396a:3ce1,",
    "3cdf:4057,3de7:4160,3fbe:4338,4032:43ad,4036:43b2,4061:43de,4159:44d7,42ce:464d,42e2:4662,",
    "43a3:4724,43a8:472a,43fa:477d,440a:478e,45c3:4948,45f5:497b,45f7:497e,45fb:4984,45fc:4987,",
    "4610:499c,4613:49a0,4629:49b8,48e8:4c78,490f:4ca4,497e:4d1a,4a12:4daf,4a63:9fa6,82bd:e76c,",
    "82be:e7c8,82bf:e7e7,82cc:e815,82cd:e819,82d2:e81f,82d9:e827,82dd:e82d,82e1:e833,82e9:e83c,",
    "82f0:e844,8300:e856,830e:e865,93d5:f92d,9421:f97a,943c:f996,948d:f9e8,9496:f9f2,94b0:fa10,",
    "94b1:fa12,94b2:fa15,94b5:fa19,94bb:fa22,94bc:fa25,94be:fa2a,98c4:fe32,98c5:fe45,98c9:fe53,",
    "98ca:fe58,98cb:fe67,98cc:fe6c,9961:ff5f,99e2:ffe6,"]

/-- What a lead byte whose pair row says a longer sequence follows leads. -/
inductive LongForm where
  | none
  /-- `0x8F` and two more bytes, looked up in rows by the first of them. -/
  | thirdPlane
  /-- Four bytes of GB 18030: lead, digit, lead, digit. -/
  | fourByte
  /-- `A4 D4` and three letters `A4 xx`: a Hangul syllable spelled by its letters. -/
  | hangulMakeUp
deriving DecidableEq, Repr

/-- A multibyte code. -/
structure MultibyteCode where
  /-- Per byte, what it stands for alone: its character, U+FFFD when it stands for nothing,
  U+FFFF when it leads a pair. -/
  leads : String
  /-- The row of the pairs of each lead byte, as entries `lead:row`. -/
  rows : String
  /-- The rows of the sequences `0x8F t u`, by `t`, as entries `t:row`. -/
  thirdPlane : String := ""
  long : LongForm := .none
deriving Repr

def multibyteCode? : String → Option MultibyteCode
  | "big5" => some {
    leads := String.join [
      "\x00\x01\x02\x03\x04\x05\x06\x07\x08\x09\x0a\x0b\x0c\x0d\x0e\x0f\x10\x11\x12\x13\x14\x15\x16\x17\x18\x19\x1a\x1b\x1c\x1d\x1e\x1f !\"#$%&'()*+,-./0123456789:;<=>?",
      "@ABCDEFGHIJKLMNOPQRSTUVWXYZ[\\]^_`abcdefghijklmnopqrstuvwxyz\x7b|\x7d~\x7f",
      "\uFFFF\uFFFF\uFFFF\uFFFF\uFFFF\uFFFF\uFFFF\uFFFF\uFFFF\uFFFF\uFFFF\uFFFF\uFFFF\uFFFF\uFFFF\uFFFF\uFFFF\uFFFF\uFFFF\uFFFF\uFFFF\uFFFF\uFFFF\uFFFF\uFFFF\uFFFF\uFFFF\uFFFF\uFFFF\uFFFF\uFFFF\uFFFF\uFFFF\uFFFF\uFFFF\uFFFF\uFFFF\uFFFF\uFFFF\uFFFF\uFFFF\uFFFF\uFFFF\uFFFF\uFFFF\uFFFF\uFFFF\uFFFF\uFFFF\uFFFF\uFFFF\uFFFF\uFFFF\uFFFF\uFFFF\uFFFF\uFFFF\uFFFF\uFFFF\uFFFF\uFFFF\uFFFF\uFFFF\uFFFF",
      "\uFFFF\uFFFF\uFFFF\uFFFF\uFFFF\uFFFF\uFFFF\uFFFF\uFFFF\uFFFF\uFFFF\uFFFF\uFFFF\uFFFF\uFFFF\uFFFF\uFFFF\uFFFF\uFFFF\uFFFF\uFFFF\uFFFF\uFFFF\uFFFF\uFFFF\uFFFF\uFFFF\uFFFF\uFFFF\uFFFF\uFFFF\uFFFF\uFFFF\uFFFF\uFFFF\uFFFF\uFFFF\uFFFF\uFFFF\uFFFF\uFFFF\uFFFF\uFFFF\uFFFF\uFFFF\uFFFF\uFFFF\uFFFF\uFFFF\uFFFF\uFFFF\uFFFF\uFFFF\uFFFF\uFFFF\uFFFF\uFFFF\uFFFF\uFFFF\uFFFF\uFFFF\uFFFF\uFFFF\uFFFF"],
    rows := String.join [
      "a1:0,a2:1,a3:2,a4:3,a5:4,a6:5,a7:6,a8:7,a9:8,aa:9,ab:a,ac:b,ad:c,ae:d,af:e,b0:f,b1:10,",
      "b2:11,b3:12,b4:13,b5:14,b6:15,b7:16,b8:17,b9:18,ba:19,bb:1a,bc:1b,bd:1c,be:1d,bf:1e,",
      "c0:1f,c1:20,c2:21,c3:22,c4:23,c5:24,c6:25,c7:26,c9:27,ca:28,cb:29,cc:2a,cd:2b,ce:2c,",
      "cf:2d,d0:2e,d1:2f,d2:30,d3:31,d4:32,d5:33,d6:34,d7:35,d8:36,d9:37,da:38,db:39,dc:3a,",
      "dd:3b,de:3c,df:3d,e0:3e,e1:3f,e2:40,e3:41,e4:42,e5:43,e6:44,e7:45,e8:46,e9:47,ea:48,",
      "eb:49,ec:4a,ed:4b,ee:4c,ef:4d,f0:4e,f1:4f,f2:50,f3:51,f4:52,f5:53,f6:54,f7:55,f8:56,",
      "f9:57,"] }
  | "big5hkscs" => some {
    leads := String.join [
      "\x00\x01\x02\x03\x04\x05\x06\x07\x08\x09\x0a\x0b\x0c\x0d\x0e\x0f\x10\x11\x12\x13\x14\x15\x16\x17\x18\x19\x1a\x1b\x1c\x1d\x1e\x1f !\"#$%&'()*+,-./0123456789:;<=>?",
      "@ABCDEFGHIJKLMNOPQRSTUVWXYZ[\\]^_`abcdefghijklmnopqrstuvwxyz\x7b|\x7d~\x7f",
      "\uFFFF\uFFFF\uFFFF\uFFFF\uFFFF\uFFFF\uFFFF\uFFFF\uFFFF\uFFFF\uFFFF\uFFFF\uFFFF\uFFFF\uFFFF\uFFFF\uFFFF\uFFFF\uFFFF\uFFFF\uFFFF\uFFFF\uFFFF\uFFFF\uFFFF\uFFFF\uFFFF\uFFFF\uFFFF\uFFFF\uFFFF\uFFFF\uFFFF\uFFFF\uFFFF\uFFFF\uFFFF\uFFFF\uFFFF\uFFFF\uFFFF\uFFFF\uFFFF\uFFFF\uFFFF\uFFFF\uFFFF\uFFFF\uFFFF\uFFFF\uFFFF\uFFFF\uFFFF\uFFFF\uFFFF\uFFFF\uFFFF\uFFFF\uFFFF\uFFFF\uFFFF\uFFFF\uFFFF\uFFFF",
      "\uFFFF\uFFFF\uFFFF\uFFFF\uFFFF\uFFFF\uFFFF\uFFFF\uFFFF\uFFFF\uFFFF\uFFFF\uFFFF\uFFFF\uFFFF\uFFFF\uFFFF\uFFFF\uFFFF\uFFFF\uFFFF\uFFFF\uFFFF\uFFFF\uFFFF\uFFFF\uFFFF\uFFFF\uFFFF\uFFFF\uFFFF\uFFFF\uFFFF\uFFFF\uFFFF\uFFFF\uFFFF\uFFFF\uFFFF\uFFFF\uFFFF\uFFFF\uFFFF\uFFFF\uFFFF\uFFFF\uFFFF\uFFFF\uFFFF\uFFFF\uFFFF\uFFFF\uFFFF\uFFFF\uFFFF\uFFFF\uFFFF\uFFFF\uFFFF\uFFFF\uFFFF\uFFFF\uFFFF\uFFFF"],
    rows := String.join [
      "87:58,88:59,89:5a,8a:5b,8b:5c,8c:5d,8d:5e,8e:5f,8f:60,90:61,91:62,92:63,93:64,94:65,",
      "95:66,96:67,97:68,98:69,99:6a,9a:6b,9b:6c,9c:6d,9d:6e,9e:6f,9f:70,a0:71,a1:0,a2:1,a3:2,",
      "a4:3,a5:4,a6:5,a7:6,a8:7,a9:8,aa:9,ab:a,ac:b,ad:c,ae:d,af:e,b0:f,b1:10,b2:11,b3:12,",
      "b4:13,b5:14,b6:15,b7:16,b8:17,b9:18,ba:19,bb:1a,bc:1b,bd:1c,be:1d,bf:1e,c0:1f,c1:20,",
      "c2:21,c3:22,c4:23,c5:24,c6:72,c7:73,c8:74,c9:27,ca:28,cb:29,cc:2a,cd:2b,ce:2c,cf:2d,",
      "d0:2e,d1:2f,d2:30,d3:31,d4:32,d5:33,d6:34,d7:35,d8:36,d9:37,da:38,db:39,dc:3a,dd:3b,",
      "de:3c,df:3d,e0:3e,e1:3f,e2:40,e3:41,e4:42,e5:43,e6:44,e7:45,e8:46,e9:47,ea:48,eb:49,",
      "ec:4a,ed:4b,ee:4c,ef:4d,f0:4e,f1:4f,f2:50,f3:51,f4:52,f5:53,f6:54,f7:55,f8:56,f9:75,",
      "fa:76,fb:77,fc:78,fd:79,fe:7a,"] }
  | "cp950" => some {
    leads := String.join [
      "\x00\x01\x02\x03\x04\x05\x06\x07\x08\x09\x0a\x0b\x0c\x0d\x0e\x0f\x10\x11\x12\x13\x14\x15\x16\x17\x18\x19\x1a\x1b\x1c\x1d\x1e\x1f !\"#$%&'()*+,-./0123456789:;<=>?",
      "@ABCDEFGHIJKLMNOPQRSTUVWXYZ[\\]^_`abcdefghijklmnopqrstuvwxyz\x7b|\x7d~\x7f",
      "\uFFFF\uFFFF\uFFFF\uFFFF\uFFFF\uFFFF\uFFFF\uFFFF\uFFFF\uFFFF\uFFFF\uFFFF\uFFFF\uFFFF\uFFFF\uFFFF\uFFFF\uFFFF\uFFFF\uFFFF\uFFFF\uFFFF\uFFFF\uFFFF\uFFFF\uFFFF\uFFFF\uFFFF\uFFFF\uFFFF\uFFFF\uFFFF\uFFFF\uFFFF\uFFFF\uFFFF\uFFFF\uFFFF\uFFFF\uFFFF\uFFFF\uFFFF\uFFFF\uFFFF\uFFFF\uFFFF\uFFFF\uFFFF\uFFFF\uFFFF\uFFFF\uFFFF\uFFFF\uFFFF\uFFFF\uFFFF\uFFFF\uFFFF\uFFFF\uFFFF\uFFFF\uFFFF\uFFFF\uFFFF",
      "\uFFFF\uFFFF\uFFFF\uFFFF\uFFFF\uFFFF\uFFFF\uFFFF\uFFFF\uFFFF\uFFFF\uFFFF\uFFFF\uFFFF\uFFFF\uFFFF\uFFFF\uFFFF\uFFFF\uFFFF\uFFFF\uFFFF\uFFFF\uFFFF\uFFFF\uFFFF\uFFFF\uFFFF\uFFFF\uFFFF\uFFFF\uFFFF\uFFFF\uFFFF\uFFFF\uFFFF\uFFFF\uFFFF\uFFFF\uFFFF\uFFFF\uFFFF\uFFFF\uFFFF\uFFFF\uFFFF\uFFFF\uFFFF\uFFFF\uFFFF\uFFFF\uFFFF\uFFFF\uFFFF\uFFFF\uFFFF\uFFFF\uFFFF\uFFFF\uFFFF\uFFFF\uFFFF\uFFFF\uFFFF"],
    rows := String.join [
      "a1:7b,a2:7c,a3:7d,a4:3,a5:4,a6:5,a7:6,a8:7,a9:8,aa:9,ab:a,ac:b,ad:c,ae:d,af:e,b0:f,",
      "b1:10,b2:11,b3:12,b4:13,b5:14,b6:15,b7:16,b8:17,b9:18,ba:19,bb:1a,bc:1b,bd:1c,be:1d,",
      "bf:1e,c0:1f,c1:20,c2:21,c3:22,c4:23,c5:24,c6:25,c7:26,c9:27,ca:28,cb:29,cc:2a,cd:2b,",
      "ce:2c,cf:2d,d0:2e,d1:2f,d2:30,d3:31,d4:32,d5:33,d6:34,d7:35,d8:36,d9:37,da:38,db:39,",
      "dc:3a,dd:3b,de:3c,df:3d,e0:3e,e1:3f,e2:40,e3:41,e4:42,e5:43,e6:44,e7:45,e8:46,e9:47,",
      "ea:48,eb:49,ec:4a,ed:4b,ee:4c,ef:4d,f0:4e,f1:4f,f2:50,f3:51,f4:52,f5:53,f6:54,f7:55,",
      "f8:56,f9:7e,"] }
  | "gb2312" => some {
    leads := String.join [
      "\x00\x01\x02\x03\x04\x05\x06\x07\x08\x09\x0a\x0b\x0c\x0d\x0e\x0f\x10\x11\x12\x13\x14\x15\x16\x17\x18\x19\x1a\x1b\x1c\x1d\x1e\x1f !\"#$%&'()*+,-./0123456789:;<=>?",
      "@ABCDEFGHIJKLMNOPQRSTUVWXYZ[\\]^_`abcdefghijklmnopqrstuvwxyz\x7b|\x7d~\x7f",
      "\uFFFF\uFFFF\uFFFF\uFFFF\uFFFF\uFFFF\uFFFF\uFFFF\uFFFF\uFFFF\uFFFF\uFFFF\uFFFF\uFFFF\uFFFF\uFFFF\uFFFF\uFFFF\uFFFF\uFFFF\uFFFF\uFFFF\uFFFF\uFFFF\uFFFF\uFFFF\uFFFF\uFFFF\uFFFF\uFFFF\uFFFF\uFFFF\uFFFF\uFFFF\uFFFF\uFFFF\uFFFF\uFFFF\uFFFF\uFFFF\uFFFF\uFFFF\uFFFF\uFFFF\uFFFF\uFFFF\uFFFF\uFFFF\uFFFF\uFFFF\uFFFF\uFFFF\uFFFF\uFFFF\uFFFF\uFFFF\uFFFF\uFFFF\uFFFF\uFFFF\uFFFF\uFFFF\uFFFF\uFFFF",
      "\uFFFF\uFFFF\uFFFF\uFFFF\uFFFF\uFFFF\uFFFF\uFFFF\uFFFF\uFFFF\uFFFF\uFFFF\uFFFF\uFFFF\uFFFF\uFFFF\uFFFF\uFFFF\uFFFF\uFFFF\uFFFF\uFFFF\uFFFF\uFFFF\uFFFF\uFFFF\uFFFF\uFFFF\uFFFF\uFFFF\uFFFF\uFFFF\uFFFF\uFFFF\uFFFF\uFFFF\uFFFF\uFFFF\uFFFF\uFFFF\uFFFF\uFFFF\uFFFF\uFFFF\uFFFF\uFFFF\uFFFF\uFFFF\uFFFF\uFFFF\uFFFF\uFFFF\uFFFF\uFFFF\uFFFF\uFFFF\uFFFF\uFFFF\uFFFF\uFFFF\uFFFF\uFFFF\uFFFF\uFFFF"],
    rows := String.join [
      "a1:7f,a2:80,a3:81,a4:82,a5:83,a6:84,a7:85,a8:86,a9:87,b0:88,b1:89,b2:8a,b3:8b,b4:8c,",
      "b5:8d,b6:8e,b7:8f,b8:90,b9:91,ba:92,bb:93,bc:94,bd:95,be:96,bf:97,c0:98,c1:99,c2:9a,",
      "c3:9b,c4:9c,c5:9d,c6:9e,c7:9f,c8:a0,c9:a1,ca:a2,cb:a3,cc:a4,cd:a5,ce:a6,cf:a7,d0:a8,",
      "d1:a9,d2:aa,d3:ab,d4:ac,d5:ad,d6:ae,d7:af,d8:b0,d9:b1,da:b2,db:b3,dc:b4,dd:b5,de:b6,",
      "df:b7,e0:b8,e1:b9,e2:ba,e3:bb,e4:bc,e5:bd,e6:be,e7:bf,e8:c0,e9:c1,ea:c2,eb:c3,ec:c4,",
      "ed:c5,ee:c6,ef:c7,f0:c8,f1:c9,f2:ca,f3:cb,f4:cc,f5:cd,f6:ce,f7:cf,"] }
  | "gbk" => some {
    leads := String.join [
      "\x00\x01\x02\x03\x04\x05\x06\x07\x08\x09\x0a\x0b\x0c\x0d\x0e\x0f\x10\x11\x12\x13\x14\x15\x16\x17\x18\x19\x1a\x1b\x1c\x1d\x1e\x1f !\"#$%&'()*+,-./0123456789:;<=>?",
      "@ABCDEFGHIJKLMNOPQRSTUVWXYZ[\\]^_`abcdefghijklmnopqrstuvwxyz\x7b|\x7d~\x7f",
      "\uFFFF\uFFFF\uFFFF\uFFFF\uFFFF\uFFFF\uFFFF\uFFFF\uFFFF\uFFFF\uFFFF\uFFFF\uFFFF\uFFFF\uFFFF\uFFFF\uFFFF\uFFFF\uFFFF\uFFFF\uFFFF\uFFFF\uFFFF\uFFFF\uFFFF\uFFFF\uFFFF\uFFFF\uFFFF\uFFFF\uFFFF\uFFFF\uFFFF\uFFFF\uFFFF\uFFFF\uFFFF\uFFFF\uFFFF\uFFFF\uFFFF\uFFFF\uFFFF\uFFFF\uFFFF\uFFFF\uFFFF\uFFFF\uFFFF\uFFFF\uFFFF\uFFFF\uFFFF\uFFFF\uFFFF\uFFFF\uFFFF\uFFFF\uFFFF\uFFFF\uFFFF\uFFFF\uFFFF\uFFFF",
      "\uFFFF\uFFFF\uFFFF\uFFFF\uFFFF\uFFFF\uFFFF\uFFFF\uFFFF\uFFFF\uFFFF\uFFFF\uFFFF\uFFFF\uFFFF\uFFFF\uFFFF\uFFFF\uFFFF\uFFFF\uFFFF\uFFFF\uFFFF\uFFFF\uFFFF\uFFFF\uFFFF\uFFFF\uFFFF\uFFFF\uFFFF\uFFFF\uFFFF\uFFFF\uFFFF\uFFFF\uFFFF\uFFFF\uFFFF\uFFFF\uFFFF\uFFFF\uFFFF\uFFFF\uFFFF\uFFFF\uFFFF\uFFFF\uFFFF\uFFFF\uFFFF\uFFFF\uFFFF\uFFFF\uFFFF\uFFFF\uFFFF\uFFFF\uFFFF\uFFFF\uFFFF\uFFFF\uFFFF\uFFFF"],
    rows := String.join [
      "81:d0,82:d1,83:d2,84:d3,85:d4,86:d5,87:d6,88:d7,89:d8,8a:d9,8b:da,8c:db,8d:dc,8e:dd,",
      "8f:de,90:df,91:e0,92:e1,93:e2,94:e3,95:e4,96:e5,97:e6,98:e7,99:e8,9a:e9,9b:ea,9c:eb,",
      "9d:ec,9e:ed,9f:ee,a0:ef,a1:f0,a2:f1,a3:81,a4:82,a5:83,a6:f2,a7:85,a8:f3,a9:f4,aa:f5,",
      "ab:f6,ac:f7,ad:f8,ae:f9,af:fa,b0:fb,b1:fc,b2:fd,b3:fe,b4:ff,b5:100,b6:101,b7:102,b8:103,",
      "b9:104,ba:105,bb:106,bc:107,bd:108,be:109,bf:10a,c0:10b,c1:10c,c2:10d,c3:10e,c4:10f,",
      "c5:110,c6:111,c7:112,c8:113,c9:114,ca:115,cb:116,cc:117,cd:118,ce:119,cf:11a,d0:11b,",
      "d1:11c,d2:11d,d3:11e,d4:11f,d5:120,d6:121,d7:122,d8:123,d9:124,da:125,db:126,dc:127,",
      "dd:128,de:129,df:12a,e0:12b,e1:12c,e2:12d,e3:12e,e4:12f,e5:130,e6:131,e7:132,e8:133,",
      "e9:134,ea:135,eb:136,ec:137,ed:138,ee:139,ef:13a,f0:13b,f1:13c,f2:13d,f3:13e,f4:13f,",
      "f5:140,f6:141,f7:142,f8:143,f9:144,fa:145,fb:146,fc:147,fd:148,fe:149,"] }
  | "gb18030" => some {
    leads := String.join [
      "\x00\x01\x02\x03\x04\x05\x06\x07\x08\x09\x0a\x0b\x0c\x0d\x0e\x0f\x10\x11\x12\x13\x14\x15\x16\x17\x18\x19\x1a\x1b\x1c\x1d\x1e\x1f !\"#$%&'()*+,-./0123456789:;<=>?",
      "@ABCDEFGHIJKLMNOPQRSTUVWXYZ[\\]^_`abcdefghijklmnopqrstuvwxyz\x7b|\x7d~\x7f",
      "\uFFFF\uFFFF\uFFFF\uFFFF\uFFFF\uFFFF\uFFFF\uFFFF\uFFFF\uFFFF\uFFFF\uFFFF\uFFFF\uFFFF\uFFFF\uFFFF\uFFFF\uFFFF\uFFFF\uFFFF\uFFFF\uFFFF\uFFFF\uFFFF\uFFFF\uFFFF\uFFFF\uFFFF\uFFFF\uFFFF\uFFFF\uFFFF\uFFFF\uFFFF\uFFFF\uFFFF\uFFFF\uFFFF\uFFFF\uFFFF\uFFFF\uFFFF\uFFFF\uFFFF\uFFFF\uFFFF\uFFFF\uFFFF\uFFFF\uFFFF\uFFFF\uFFFF\uFFFF\uFFFF\uFFFF\uFFFF\uFFFF\uFFFF\uFFFF\uFFFF\uFFFF\uFFFF\uFFFF\uFFFF",
      "\uFFFF\uFFFF\uFFFF\uFFFF\uFFFF\uFFFF\uFFFF\uFFFF\uFFFF\uFFFF\uFFFF\uFFFF\uFFFF\uFFFF\uFFFF\uFFFF\uFFFF\uFFFF\uFFFF\uFFFF\uFFFF\uFFFF\uFFFF\uFFFF\uFFFF\uFFFF\uFFFF\uFFFF\uFFFF\uFFFF\uFFFF\uFFFF\uFFFF\uFFFF\uFFFF\uFFFF\uFFFF\uFFFF\uFFFF\uFFFF\uFFFF\uFFFF\uFFFF\uFFFF\uFFFF\uFFFF\uFFFF\uFFFF\uFFFF\uFFFF\uFFFF\uFFFF\uFFFF\uFFFF\uFFFF\uFFFF\uFFFF\uFFFF\uFFFF\uFFFF\uFFFF\uFFFF\uFFFF\uFFFF"],
    rows := String.join [
      "80:14a,81:14b,82:14c,83:14d,84:14e,85:14f,86:150,87:151,88:152,89:153,8a:154,8b:155,",
      "8c:156,8d:157,8e:158,8f:159,90:15a,91:15b,92:15c,93:15d,94:15e,95:15f,96:160,97:161,",
      "98:162,99:163,9a:164,9b:165,9c:166,9d:167,9e:168,9f:169,a0:16a,a1:16b,a2:16c,a3:16d,",
      "a4:16e,a5:16f,a6:170,a7:171,a8:172,a9:173,aa:174,ab:175,ac:176,ad:177,ae:178,af:179,",
      "b0:17a,b1:17b,b2:17c,b3:17d,b4:17e,b5:17f,b6:180,b7:181,b8:182,b9:183,ba:184,bb:185,",
      "bc:186,bd:187,be:188,bf:189,c0:18a,c1:18b,c2:18c,c3:18d,c4:18e,c5:18f,c6:190,c7:191,",
      "c8:192,c9:193,ca:194,cb:195,cc:196,cd:197,ce:198,cf:199,d0:19a,d1:19b,d2:19c,d3:19d,",
      "d4:19e,d5:19f,d6:1a0,d7:1a1,d8:1a2,d9:1a3,da:1a4,db:1a5,dc:1a6,dd:1a7,de:1a8,df:1a9,",
      "e0:1aa,e1:1ab,e2:1ac,e3:1ad,e4:1ae,e5:1af,e6:1b0,e7:1b1,e8:1b2,e9:1b3,ea:1b4,eb:1b5,",
      "ec:1b6,ed:1b7,ee:1b8,ef:1b9,f0:1ba,f1:1bb,f2:1bc,f3:1bd,f4:1be,f5:1bf,f6:1c0,f7:1c1,",
      "f8:1c2,f9:1c3,fa:1c4,fb:1c5,fc:1c6,fd:1c7,fe:1c8,ff:14a,"],
    long := .fourByte }
  | "euc_kr" => some {
    leads := String.join [
      "\x00\x01\x02\x03\x04\x05\x06\x07\x08\x09\x0a\x0b\x0c\x0d\x0e\x0f\x10\x11\x12\x13\x14\x15\x16\x17\x18\x19\x1a\x1b\x1c\x1d\x1e\x1f !\"#$%&'()*+,-./0123456789:;<=>?",
      "@ABCDEFGHIJKLMNOPQRSTUVWXYZ[\\]^_`abcdefghijklmnopqrstuvwxyz\x7b|\x7d~\x7f",
      "\uFFFF\uFFFF\uFFFF\uFFFF\uFFFF\uFFFF\uFFFF\uFFFF\uFFFF\uFFFF\uFFFF\uFFFF\uFFFF\uFFFF\uFFFF\uFFFF\uFFFF\uFFFF\uFFFF\uFFFF\uFFFF\uFFFF\uFFFF\uFFFF\uFFFF\uFFFF\uFFFF\uFFFF\uFFFF\uFFFF\uFFFF\uFFFF\uFFFF\uFFFF\uFFFF\uFFFF\uFFFF\uFFFF\uFFFF\uFFFF\uFFFF\uFFFF\uFFFF\uFFFF\uFFFF\uFFFF\uFFFF\uFFFF\uFFFF\uFFFF\uFFFF\uFFFF\uFFFF\uFFFF\uFFFF\uFFFF\uFFFF\uFFFF\uFFFF\uFFFF\uFFFF\uFFFF\uFFFF\uFFFF",
      "\uFFFF\uFFFF\uFFFF\uFFFF\uFFFF\uFFFF\uFFFF\uFFFF\uFFFF\uFFFF\uFFFF\uFFFF\uFFFF\uFFFF\uFFFF\uFFFF\uFFFF\uFFFF\uFFFF\uFFFF\uFFFF\uFFFF\uFFFF\uFFFF\uFFFF\uFFFF\uFFFF\uFFFF\uFFFF\uFFFF\uFFFF\uFFFF\uFFFF\uFFFF\uFFFF\uFFFF\uFFFF\uFFFF\uFFFF\uFFFF\uFFFF\uFFFF\uFFFF\uFFFF\uFFFF\uFFFF\uFFFF\uFFFF\uFFFF\uFFFF\uFFFF\uFFFF\uFFFF\uFFFF\uFFFF\uFFFF\uFFFF\uFFFF\uFFFF\uFFFF\uFFFF\uFFFF\uFFFF\uFFFF"],
    rows := String.join [
      "a1:1c9,a2:1ca,a3:1cb,a4:1cc,a5:1cd,a6:1ce,a7:1cf,a8:1d0,a9:1d1,aa:82,ab:83,ac:85,b0:1d2,",
      "b1:1d3,b2:1d4,b3:1d5,b4:1d6,b5:1d7,b6:1d8,b7:1d9,b8:1da,b9:1db,ba:1dc,bb:1dd,bc:1de,",
      "bd:1df,be:1e0,bf:1e1,c0:1e2,c1:1e3,c2:1e4,c3:1e5,c4:1e6,c5:1e7,c6:1e8,c7:1e9,c8:1ea,",
      "ca:1eb,cb:1ec,cc:1ed,cd:1ee,ce:1ef,cf:1f0,d0:1f1,d1:1f2,d2:1f3,d3:1f4,d4:1f5,d5:1f6,",
      "d6:1f7,d7:1f8,d8:1f9,d9:1fa,da:1fb,db:1fc,dc:1fd,dd:1fe,de:1ff,df:200,e0:201,e1:202,",
      "e2:203,e3:204,e4:205,e5:206,e6:207,e7:208,e8:209,e9:20a,ea:20b,eb:20c,ec:20d,ed:20e,",
      "ee:20f,ef:210,f0:211,f1:212,f2:213,f3:214,f4:215,f5:216,f6:217,f7:218,f8:219,f9:21a,",
      "fa:21b,fb:21c,fc:21d,fd:21e,"],
    long := .hangulMakeUp }
  | "cp949" => some {
    leads := String.join [
      "\x00\x01\x02\x03\x04\x05\x06\x07\x08\x09\x0a\x0b\x0c\x0d\x0e\x0f\x10\x11\x12\x13\x14\x15\x16\x17\x18\x19\x1a\x1b\x1c\x1d\x1e\x1f !\"#$%&'()*+,-./0123456789:;<=>?",
      "@ABCDEFGHIJKLMNOPQRSTUVWXYZ[\\]^_`abcdefghijklmnopqrstuvwxyz\x7b|\x7d~\x7f",
      "\uFFFF\uFFFF\uFFFF\uFFFF\uFFFF\uFFFF\uFFFF\uFFFF\uFFFF\uFFFF\uFFFF\uFFFF\uFFFF\uFFFF\uFFFF\uFFFF\uFFFF\uFFFF\uFFFF\uFFFF\uFFFF\uFFFF\uFFFF\uFFFF\uFFFF\uFFFF\uFFFF\uFFFF\uFFFF\uFFFF\uFFFF\uFFFF\uFFFF\uFFFF\uFFFF\uFFFF\uFFFF\uFFFF\uFFFF\uFFFF\uFFFF\uFFFF\uFFFF\uFFFF\uFFFF\uFFFF\uFFFF\uFFFF\uFFFF\uFFFF\uFFFF\uFFFF\uFFFF\uFFFF\uFFFF\uFFFF\uFFFF\uFFFF\uFFFF\uFFFF\uFFFF\uFFFF\uFFFF\uFFFF",
      "\uFFFF\uFFFF\uFFFF\uFFFF\uFFFF\uFFFF\uFFFF\uFFFF\uFFFF\uFFFF\uFFFF\uFFFF\uFFFF\uFFFF\uFFFF\uFFFF\uFFFF\uFFFF\uFFFF\uFFFF\uFFFF\uFFFF\uFFFF\uFFFF\uFFFF\uFFFF\uFFFF\uFFFF\uFFFF\uFFFF\uFFFF\uFFFF\uFFFF\uFFFF\uFFFF\uFFFF\uFFFF\uFFFF\uFFFF\uFFFF\uFFFF\uFFFF\uFFFF\uFFFF\uFFFF\uFFFF\uFFFF\uFFFF\uFFFF\uFFFF\uFFFF\uFFFF\uFFFF\uFFFF\uFFFF\uFFFF\uFFFF\uFFFF\uFFFF\uFFFF\uFFFF\uFFFF\uFFFF\uFFFF"],
    rows := String.join [
      "81:21f,82:220,83:221,84:222,85:223,86:224,87:225,88:226,89:227,8a:228,8b:229,8c:22a,",
      "8d:22b,8e:22c,8f:22d,90:22e,91:22f,92:230,93:231,94:232,95:233,96:234,97:235,98:236,",
      "99:237,9a:238,9b:239,9c:23a,9d:23b,9e:23c,9f:23d,a0:23e,a1:23f,a2:240,a3:241,a4:242,",
      "a5:243,a6:244,a7:245,a8:246,a9:247,aa:248,ab:249,ac:24a,ad:24b,ae:24c,af:24d,b0:24e,",
      "b1:24f,b2:250,b3:251,b4:252,b5:253,b6:254,b7:255,b8:256,b9:257,ba:258,bb:259,bc:25a,",
      "bd:25b,be:25c,bf:25d,c0:25e,c1:25f,c2:260,c3:261,c4:262,c5:263,c6:264,c7:1e9,c8:1ea,",
      "ca:1eb,cb:1ec,cc:1ed,cd:1ee,ce:1ef,cf:1f0,d0:1f1,d1:1f2,d2:1f3,d3:1f4,d4:1f5,d5:1f6,",
      "d6:1f7,d7:1f8,d8:1f9,d9:1fa,da:1fb,db:1fc,dc:1fd,dd:1fe,de:1ff,df:200,e0:201,e1:202,",
      "e2:203,e3:204,e4:205,e5:206,e6:207,e7:208,e8:209,e9:20a,ea:20b,eb:20c,ec:20d,ed:20e,",
      "ee:20f,ef:210,f0:211,f1:212,f2:213,f3:214,f4:215,f5:216,f6:217,f7:218,f8:219,f9:21a,",
      "fa:21b,fb:21c,fc:21d,fd:21e,"] }
  | "johab" => some {
    leads := String.join [
      "\x00\x01\x02\x03\x04\x05\x06\x07\x08\x09\x0a\x0b\x0c\x0d\x0e\x0f\x10\x11\x12\x13\x14\x15\x16\x17\x18\x19\x1a\x1b\x1c\x1d\x1e\x1f !\"#$%&'()*+,-./0123456789:;<=>?",
      "@ABCDEFGHIJKLMNOPQRSTUVWXYZ[\\]^_`abcdefghijklmnopqrstuvwxyz\x7b|\x7d~\x7f",
      "\uFFFF\uFFFF\uFFFF\uFFFF\uFFFF\uFFFF\uFFFF\uFFFF\uFFFF\uFFFF\uFFFF\uFFFF\uFFFF\uFFFF\uFFFF\uFFFF\uFFFF\uFFFF\uFFFF\uFFFF\uFFFF\uFFFF\uFFFF\uFFFF\uFFFF\uFFFF\uFFFF\uFFFF\uFFFF\uFFFF\uFFFF\uFFFF\uFFFF\uFFFF\uFFFF\uFFFF\uFFFF\uFFFF\uFFFF\uFFFF\uFFFF\uFFFF\uFFFF\uFFFF\uFFFF\uFFFF\uFFFF\uFFFF\uFFFF\uFFFF\uFFFF\uFFFF\uFFFF\uFFFF\uFFFF\uFFFF\uFFFF\uFFFF\uFFFF\uFFFF\uFFFF\uFFFF\uFFFF\uFFFF",
      "\uFFFF\uFFFF\uFFFF\uFFFF\uFFFF\uFFFF\uFFFF\uFFFF\uFFFF\uFFFF\uFFFF\uFFFF\uFFFF\uFFFF\uFFFF\uFFFF\uFFFF\uFFFF\uFFFF\uFFFF\uFFFF\uFFFF\uFFFF\uFFFF\uFFFF\uFFFF\uFFFF\uFFFF\uFFFF\uFFFF\uFFFF\uFFFF\uFFFF\uFFFF\uFFFF\uFFFF\uFFFF\uFFFF\uFFFF\uFFFF\uFFFF\uFFFF\uFFFF\uFFFF\uFFFF\uFFFF\uFFFF\uFFFF\uFFFF\uFFFF\uFFFF\uFFFF\uFFFF\uFFFF\uFFFF\uFFFF\uFFFF\uFFFF\uFFFF\uFFFF\uFFFF\uFFFF\uFFFF\uFFFF"],
    rows := String.join [
      "84:265,85:266,86:267,87:268,88:269,89:26a,8a:26b,8b:26c,8c:26d,8d:26e,8e:26f,8f:270,",
      "90:271,91:272,92:273,93:274,94:275,95:276,96:277,97:278,98:279,99:27a,9a:27b,9b:27c,",
      "9c:27d,9d:27e,9e:27f,9f:280,a0:281,a1:282,a2:283,a3:284,a4:285,a5:286,a6:287,a7:288,",
      "a8:289,a9:28a,aa:28b,ab:28c,ac:28d,ad:28e,ae:28f,af:290,b0:291,b1:292,b2:293,b3:294,",
      "b4:295,b5:296,b6:297,b7:298,b8:299,b9:29a,ba:29b,bb:29c,bc:29d,bd:29e,be:29f,bf:2a0,",
      "c0:2a1,c1:2a2,c2:2a3,c3:2a4,c4:2a5,c5:2a6,c6:2a7,c7:2a8,c8:2a9,c9:2aa,ca:2ab,cb:2ac,",
      "cc:2ad,cd:2ae,ce:2af,cf:2b0,d0:2b1,d1:2b2,d2:2b3,d3:2b4,d9:2b5,da:2b6,db:2b7,dc:2b8,",
      "dd:2b9,de:2ba,e0:2bb,e1:2bc,e2:2bd,e3:2be,e4:2bf,e5:2c0,e6:2c1,e7:2c2,e8:2c3,e9:2c4,",
      "ea:2c5,eb:2c6,ec:2c7,ed:2c8,ee:2c9,ef:2ca,f0:2cb,f1:2cc,f2:2cd,f3:2ce,f4:2cf,f5:2d0,",
      "f6:2d1,f7:2d2,f8:2d3,f9:2d4,"] }
  | "euc_jp" => some {
    leads := String.join [
      "\x00\x01\x02\x03\x04\x05\x06\x07\x08\x09\x0a\x0b\x0c\x0d\x0e\x0f\x10\x11\x12\x13\x14\x15\x16\x17\x18\x19\x1a\x1b\x1c\x1d\x1e\x1f !\"#$%&'()*+,-./0123456789:;<=>?",
      "@ABCDEFGHIJKLMNOPQRSTUVWXYZ[\\]^_`abcdefghijklmnopqrstuvwxyz\x7b|\x7d~\x7f",
      "\uFFFF\uFFFF\uFFFF\uFFFF\uFFFF\uFFFF\uFFFF\uFFFF\uFFFF\uFFFF\uFFFF\uFFFF\uFFFF\uFFFF\uFFFF\uFFFF\uFFFF\uFFFF\uFFFF\uFFFF\uFFFF\uFFFF\uFFFF\uFFFF\uFFFF\uFFFF\uFFFF\uFFFF\uFFFF\uFFFF\uFFFF\uFFFF\uFFFF\uFFFF\uFFFF\uFFFF\uFFFF\uFFFF\uFFFF\uFFFF\uFFFF\uFFFF\uFFFF\uFFFF\uFFFF\uFFFF\uFFFF\uFFFF\uFFFF\uFFFF\uFFFF\uFFFF\uFFFF\uFFFF\uFFFF\uFFFF\uFFFF\uFFFF\uFFFF\uFFFF\uFFFF\uFFFF\uFFFF\uFFFF",
      "\uFFFF\uFFFF\uFFFF\uFFFF\uFFFF\uFFFF\uFFFF\uFFFF\uFFFF\uFFFF\uFFFF\uFFFF\uFFFF\uFFFF\uFFFF\uFFFF\uFFFF\uFFFF\uFFFF\uFFFF\uFFFF\uFFFF\uFFFF\uFFFF\uFFFF\uFFFF\uFFFF\uFFFF\uFFFF\uFFFF\uFFFF\uFFFF\uFFFF\uFFFF\uFFFF\uFFFF\uFFFF\uFFFF\uFFFF\uFFFF\uFFFF\uFFFF\uFFFF\uFFFF\uFFFF\uFFFF\uFFFF\uFFFF\uFFFF\uFFFF\uFFFF\uFFFF\uFFFF\uFFFF\uFFFF\uFFFF\uFFFF\uFFFF\uFFFF\uFFFF\uFFFF\uFFFF\uFFFF\uFFFF"],
    rows := String.join [
      "8e:2d5,8f:2d6,a1:2d7,a2:2d8,a3:2d9,a4:82,a5:83,a6:84,a7:85,a8:2da,b0:2db,b1:2dc,b2:2dd,",
      "b3:2de,b4:2df,b5:2e0,b6:2e1,b7:2e2,b8:2e3,b9:2e4,ba:2e5,bb:2e6,bc:2e7,bd:2e8,be:2e9,",
      "bf:2ea,c0:2eb,c1:2ec,c2:2ed,c3:2ee,c4:2ef,c5:2f0,c6:2f1,c7:2f2,c8:2f3,c9:2f4,ca:2f5,",
      "cb:2f6,cc:2f7,cd:2f8,ce:2f9,cf:2fa,d0:2fb,d1:2fc,d2:2fd,d3:2fe,d4:2ff,d5:300,d6:301,",
      "d7:302,d8:303,d9:304,da:305,db:306,dc:307,dd:308,de:309,df:30a,e0:30b,e1:30c,e2:30d,",
      "e3:30e,e4:30f,e5:310,e6:311,e7:312,e8:313,e9:314,ea:315,eb:316,ec:317,ed:318,ee:319,",
      "ef:31a,f0:31b,f1:31c,f2:31d,f3:31e,f4:31f,"],
    thirdPlane := String.join [
      "a2:320,a6:321,a7:322,a9:323,aa:324,ab:325,b0:326,b1:327,b2:328,b3:329,b4:32a,b5:32b,",
      "b6:32c,b7:32d,b8:32e,b9:32f,ba:330,bb:331,bc:332,bd:333,be:334,bf:335,c0:336,c1:337,",
      "c2:338,c3:339,c4:33a,c5:33b,c6:33c,c7:33d,c8:33e,c9:33f,ca:340,cb:341,cc:342,cd:343,",
      "ce:344,cf:345,d0:346,d1:347,d2:348,d3:349,d4:34a,d5:34b,d6:34c,d7:34d,d8:34e,d9:34f,",
      "da:350,db:351,dc:352,dd:353,de:354,df:355,e0:356,e1:357,e2:358,e3:359,e4:35a,e5:35b,",
      "e6:35c,e7:35d,e8:35e,e9:35f,ea:360,eb:361,ec:362,ed:363,"],
    long := .thirdPlane }
  | "shift_jis" => some {
    leads := String.join [
      "\x00\x01\x02\x03\x04\x05\x06\x07\x08\x09\x0a\x0b\x0c\x0d\x0e\x0f\x10\x11\x12\x13\x14\x15\x16\x17\x18\x19\x1a\x1b\x1c\x1d\x1e\x1f !\"#$%&'()*+,-./0123456789:;<=>?",
      "@ABCDEFGHIJKLMNOPQRSTUVWXYZ[\\]^_`abcdefghijklmnopqrstuvwxyz\x7b|\x7d~\x7f",
      "\uFFFD\uFFFF\uFFFF\uFFFF\uFFFF\uFFFF\uFFFF\uFFFF\uFFFF\uFFFF\uFFFF\uFFFF\uFFFF\uFFFF\uFFFF\uFFFF\uFFFF\uFFFF\uFFFF\uFFFF\uFFFF\uFFFF\uFFFF\uFFFF\uFFFF\uFFFF\uFFFF\uFFFF\uFFFF\uFFFF\uFFFF\uFFFF\uFFFD｡｢｣､･ｦｧｨｩｪｫｬｭｮｯｰｱｲｳｴｵｶｷｸｹｺｻｼｽｾｿ",
      "ﾀﾁﾂﾃﾄﾅﾆﾇﾈﾉﾊﾋﾌﾍﾎﾏﾐﾑﾒﾓﾔﾕﾖﾗﾘﾙﾚﾛﾜﾝﾞﾟ\uFFFF\uFFFF\uFFFF\uFFFF\uFFFF\uFFFF\uFFFF\uFFFF\uFFFF\uFFFF\uFFFF\uFFFD\uFFFD\uFFFD\uFFFD\uFFFD\uFFFD\uFFFD\uFFFD\uFFFD\uFFFD\uFFFD\uFFFD\uFFFD\uFFFD\uFFFD\uFFFD\uFFFD\uFFFD\uFFFD\uFFFD\uFFFD"],
    rows := String.join [
      "81:364,82:365,83:366,84:367,88:368,89:369,8a:36a,8b:36b,8c:36c,8d:36d,8e:36e,8f:36f,",
      "90:370,91:371,92:372,93:373,94:374,95:375,96:376,97:377,98:378,99:379,9a:37a,9b:37b,",
      "9c:37c,9d:37d,9e:37e,9f:37f,e0:380,e1:381,e2:382,e3:383,e4:384,e5:385,e6:386,e7:387,",
      "e8:388,e9:389,ea:38a,"] }
  | "cp932" => some {
    leads := String.join [
      "\x00\x01\x02\x03\x04\x05\x06\x07\x08\x09\x0a\x0b\x0c\x0d\x0e\x0f\x10\x11\x12\x13\x14\x15\x16\x17\x18\x19\x1a\x1b\x1c\x1d\x1e\x1f !\"#$%&'()*+,-./0123456789:;<=>?",
      "@ABCDEFGHIJKLMNOPQRSTUVWXYZ[\\]^_`abcdefghijklmnopqrstuvwxyz\x7b|\x7d~\x7f",
      "\u0080\uFFFF\uFFFF\uFFFF\uFFFF\uFFFF\uFFFF\uFFFF\uFFFF\uFFFF\uFFFF\uFFFF\uFFFF\uFFFF\uFFFF\uFFFF\uFFFF\uFFFF\uFFFF\uFFFF\uFFFF\uFFFF\uFFFF\uFFFF\uFFFF\uFFFF\uFFFF\uFFFF\uFFFF\uFFFF\uFFFF\uFFFF\uF8F0｡｢｣､･ｦｧｨｩｪｫｬｭｮｯｰｱｲｳｴｵｶｷｸｹｺｻｼｽｾｿ",
      "ﾀﾁﾂﾃﾄﾅﾆﾇﾈﾉﾊﾋﾌﾍﾎﾏﾐﾑﾒﾓﾔﾕﾖﾗﾘﾙﾚﾛﾜﾝﾞﾟ\uFFFF\uFFFF\uFFFF\uFFFF\uFFFF\uFFFF\uFFFF\uFFFF\uFFFF\uFFFF\uFFFF\uFFFF\uFFFF\uFFFF\uFFFF\uFFFF\uFFFF\uFFFF\uFFFF\uFFFF\uFFFF\uFFFF\uFFFF\uFFFF\uFFFF\uFFFF\uFFFF\uFFFF\uFFFF\uF8F1\uF8F2\uF8F3"],
    rows := String.join [
      "81:38b,82:365,83:366,84:367,87:38c,88:368,89:369,8a:36a,8b:36b,8c:36c,8d:36d,8e:36e,",
      "8f:36f,90:370,91:371,92:372,93:373,94:374,95:375,96:376,97:377,98:378,99:379,9a:37a,",
      "9b:37b,9c:37c,9d:37d,9e:37e,9f:37f,e0:380,e1:381,e2:382,e3:383,e4:384,e5:385,e6:386,",
      "e7:387,e8:388,e9:389,ea:38a,ed:38d,ee:38e,f0:38f,f1:390,f2:391,f3:392,f4:393,f5:394,",
      "f6:395,f7:396,f8:397,f9:398,fa:399,fb:39a,fc:39b,"] }
  | "euc_jis_2004" => some {
    leads := String.join [
      "\x00\x01\x02\x03\x04\x05\x06\x07\x08\x09\x0a\x0b\x0c\x0d\x0e\x0f\x10\x11\x12\x13\x14\x15\x16\x17\x18\x19\x1a\x1b\x1c\x1d\x1e\x1f !\"#$%&'()*+,-./0123456789:;<=>?",
      "@ABCDEFGHIJKLMNOPQRSTUVWXYZ[\\]^_`abcdefghijklmnopqrstuvwxyz\x7b|\x7d~\x7f",
      "\uFFFF\uFFFF\uFFFF\uFFFF\uFFFF\uFFFF\uFFFF\uFFFF\uFFFF\uFFFF\uFFFF\uFFFF\uFFFF\uFFFF\uFFFF\uFFFF\uFFFF\uFFFF\uFFFF\uFFFF\uFFFF\uFFFF\uFFFF\uFFFF\uFFFF\uFFFF\uFFFF\uFFFF\uFFFF\uFFFF\uFFFF\uFFFF\uFFFF\uFFFF\uFFFF\uFFFF\uFFFF\uFFFF\uFFFF\uFFFF\uFFFF\uFFFF\uFFFF\uFFFF\uFFFF\uFFFF\uFFFF\uFFFF\uFFFF\uFFFF\uFFFF\uFFFF\uFFFF\uFFFF\uFFFF\uFFFF\uFFFF\uFFFF\uFFFF\uFFFF\uFFFF\uFFFF\uFFFF\uFFFF",
      "\uFFFF\uFFFF\uFFFF\uFFFF\uFFFF\uFFFF\uFFFF\uFFFF\uFFFF\uFFFF\uFFFF\uFFFF\uFFFF\uFFFF\uFFFF\uFFFF\uFFFF\uFFFF\uFFFF\uFFFF\uFFFF\uFFFF\uFFFF\uFFFF\uFFFF\uFFFF\uFFFF\uFFFF\uFFFF\uFFFF\uFFFF\uFFFF\uFFFF\uFFFF\uFFFF\uFFFF\uFFFF\uFFFF\uFFFF\uFFFF\uFFFF\uFFFF\uFFFF\uFFFF\uFFFF\uFFFF\uFFFF\uFFFF\uFFFF\uFFFF\uFFFF\uFFFF\uFFFF\uFFFF\uFFFF\uFFFF\uFFFF\uFFFF\uFFFF\uFFFF\uFFFF\uFFFF\uFFFF\uFFFF"],
    rows := String.join [
      "8e:2d5,8f:2d6,a1:2d7,a2:39c,a3:39d,a4:39e,a5:39f,a6:3a0,a7:3a1,a8:3a2,a9:3a3,aa:3a4,",
      "ab:3a5,ac:3a6,ad:3a7,ae:3a8,af:3a9,b0:2db,b1:2dc,b2:2dd,b3:2de,b4:2df,b5:2e0,b6:2e1,",
      "b7:2e2,b8:2e3,b9:2e4,ba:2e5,bb:2e6,bc:2e7,bd:2e8,be:2e9,bf:2ea,c0:2eb,c1:2ec,c2:2ed,",
      "c3:2ee,c4:2ef,c5:2f0,c6:2f1,c7:2f2,c8:2f3,c9:2f4,ca:2f5,cb:2f6,cc:2f7,cd:2f8,ce:2f9,",
      "cf:3aa,d0:2fb,d1:2fc,d2:2fd,d3:2fe,d4:2ff,d5:300,d6:301,d7:302,d8:303,d9:304,da:305,",
      "db:306,dc:307,dd:308,de:309,df:30a,e0:30b,e1:30c,e2:30d,e3:30e,e4:30f,e5:310,e6:311,",
      "e7:312,e8:313,e9:314,ea:315,eb:316,ec:317,ed:318,ee:319,ef:31a,f0:31b,f1:31c,f2:31d,",
      "f3:31e,f4:3ab,f5:3ac,f6:3ad,f7:3ae,f8:3af,f9:3b0,fa:3b1,fb:3b2,fc:3b3,fd:3b4,fe:3b5,"],
    thirdPlane := String.join [
      "a1:3b6,a2:320,a3:3b7,a4:3b8,a5:3b9,a6:321,a7:322,a8:3ba,a9:323,aa:324,ab:325,ac:3bb,",
      "ad:3bc,ae:3bd,af:3be,b0:326,b1:327,b2:328,b3:329,b4:32a,b5:32b,b6:32c,b7:32d,b8:32e,",
      "b9:32f,ba:330,bb:331,bc:332,bd:333,be:334,bf:335,c0:336,c1:337,c2:338,c3:339,c4:33a,",
      "c5:33b,c6:33c,c7:33d,c8:33e,c9:33f,ca:340,cb:341,cc:342,cd:343,ce:344,cf:345,d0:346,",
      "d1:347,d2:348,d3:349,d4:34a,d5:34b,d6:34c,d7:34d,d8:34e,d9:34f,da:350,db:351,dc:352,",
      "dd:353,de:354,df:355,e0:356,e1:357,e2:358,e3:359,e4:35a,e5:35b,e6:35c,e7:35d,e8:35e,",
      "e9:35f,ea:360,eb:361,ec:362,ed:363,ee:3bf,ef:3c0,f0:3c1,f1:3c2,f2:3c3,f3:3c4,f4:3c5,",
      "f5:3c6,f6:3c7,f7:3c8,f8:3c9,f9:3ca,fa:3cb,fb:3cc,fc:3cd,fd:3ce,fe:3cf,"],
    long := .thirdPlane }
  | "euc_jisx0213" => some {
    leads := String.join [
      "\x00\x01\x02\x03\x04\x05\x06\x07\x08\x09\x0a\x0b\x0c\x0d\x0e\x0f\x10\x11\x12\x13\x14\x15\x16\x17\x18\x19\x1a\x1b\x1c\x1d\x1e\x1f !\"#$%&'()*+,-./0123456789:;<=>?",
      "@ABCDEFGHIJKLMNOPQRSTUVWXYZ[\\]^_`abcdefghijklmnopqrstuvwxyz\x7b|\x7d~\x7f",
      "\uFFFF\uFFFF\uFFFF\uFFFF\uFFFF\uFFFF\uFFFF\uFFFF\uFFFF\uFFFF\uFFFF\uFFFF\uFFFF\uFFFF\uFFFF\uFFFF\uFFFF\uFFFF\uFFFF\uFFFF\uFFFF\uFFFF\uFFFF\uFFFF\uFFFF\uFFFF\uFFFF\uFFFF\uFFFF\uFFFF\uFFFF\uFFFF\uFFFF\uFFFF\uFFFF\uFFFF\uFFFF\uFFFF\uFFFF\uFFFF\uFFFF\uFFFF\uFFFF\uFFFF\uFFFF\uFFFF\uFFFF\uFFFF\uFFFF\uFFFF\uFFFF\uFFFF\uFFFF\uFFFF\uFFFF\uFFFF\uFFFF\uFFFF\uFFFF\uFFFF\uFFFF\uFFFF\uFFFF\uFFFF",
      "\uFFFF\uFFFF\uFFFF\uFFFF\uFFFF\uFFFF\uFFFF\uFFFF\uFFFF\uFFFF\uFFFF\uFFFF\uFFFF\uFFFF\uFFFF\uFFFF\uFFFF\uFFFF\uFFFF\uFFFF\uFFFF\uFFFF\uFFFF\uFFFF\uFFFF\uFFFF\uFFFF\uFFFF\uFFFF\uFFFF\uFFFF\uFFFF\uFFFF\uFFFF\uFFFF\uFFFF\uFFFF\uFFFF\uFFFF\uFFFF\uFFFF\uFFFF\uFFFF\uFFFF\uFFFF\uFFFF\uFFFF\uFFFF\uFFFF\uFFFF\uFFFF\uFFFF\uFFFF\uFFFF\uFFFF\uFFFF\uFFFF\uFFFF\uFFFF\uFFFF\uFFFF\uFFFF\uFFFF\uFFFF"],
    rows := String.join [
      "8e:2d5,8f:2d6,a1:2d7,a2:39c,a3:39d,a4:39e,a5:39f,a6:3a0,a7:3a1,a8:3a2,a9:3a3,aa:3a4,",
      "ab:3a5,ac:3a6,ad:3a7,ae:3d0,af:3d1,b0:2db,b1:2dc,b2:2dd,b3:2de,b4:2df,b5:2e0,b6:2e1,",
      "b7:2e2,b8:2e3,b9:2e4,ba:2e5,bb:2e6,bc:2e7,bd:2e8,be:2e9,bf:2ea,c0:2eb,c1:2ec,c2:2ed,",
      "c3:2ee,c4:2ef,c5:2f0,c6:2f1,c7:2f2,c8:2f3,c9:2f4,ca:2f5,cb:2f6,cc:2f7,cd:2f8,ce:2f9,",
      "cf:3d2,d0:2fb,d1:2fc,d2:2fd,d3:2fe,d4:2ff,d5:300,d6:301,d7:302,d8:303,d9:304,da:305,",
      "db:306,dc:307,dd:308,de:309,df:30a,e0:30b,e1:30c,e2:30d,e3:30e,e4:30f,e5:310,e6:311,",
      "e7:312,e8:313,e9:314,ea:315,eb:316,ec:317,ed:318,ee:319,ef:31a,f0:31b,f1:31c,f2:31d,",
      "f3:31e,f4:3d3,f5:3ac,f6:3ad,f7:3ae,f8:3af,f9:3b0,fa:3b1,fb:3b2,fc:3b3,fd:3b4,fe:3d4,"],
    thirdPlane := String.join [
      "a1:3b6,a2:320,a3:3b7,a4:3b8,a5:3b9,a6:321,a7:322,a8:3ba,a9:323,aa:324,ab:325,ac:3bb,",
      "ad:3bc,ae:3bd,af:3be,b0:326,b1:327,b2:328,b3:329,b4:32a,b5:32b,b6:32c,b7:32d,b8:32e,",
      "b9:32f,ba:330,bb:331,bc:332,bd:333,be:334,bf:335,c0:336,c1:337,c2:338,c3:339,c4:33a,",
      "c5:33b,c6:33c,c7:33d,c8:33e,c9:33f,ca:340,cb:341,cc:342,cd:343,ce:344,cf:345,d0:346,",
      "d1:347,d2:348,d3:349,d4:34a,d5:34b,d6:34c,d7:34d,d8:34e,d9:34f,da:350,db:351,dc:352,",
      "dd:353,de:354,df:355,e0:356,e1:357,e2:358,e3:359,e4:35a,e5:35b,e6:35c,e7:35d,e8:35e,",
      "e9:35f,ea:360,eb:361,ec:362,ed:363,ee:3bf,ef:3c0,f0:3c1,f1:3c2,f2:3c3,f3:3c4,f4:3c5,",
      "f5:3c6,f6:3c7,f7:3c8,f8:3c9,f9:3ca,fa:3cb,fb:3cc,fc:3cd,fd:3d5,fe:3cf,"],
    long := .thirdPlane }
  | "shift_jis_2004" => some {
    leads := String.join [
      "\x00\x01\x02\x03\x04\x05\x06\x07\x08\x09\x0a\x0b\x0c\x0d\x0e\x0f\x10\x11\x12\x13\x14\x15\x16\x17\x18\x19\x1a\x1b\x1c\x1d\x1e\x1f !\"#$%&'()*+,-./0123456789:;<=>?",
      "@ABCDEFGHIJKLMNOPQRSTUVWXYZ[¥]^_`abcdefghijklmnopqrstuvwxyz\x7b|\x7d‾\x7f",
      "\uFFFD\uFFFF\uFFFF\uFFFF\uFFFF\uFFFF\uFFFF\uFFFF\uFFFF\uFFFF\uFFFF\uFFFF\uFFFF\uFFFF\uFFFF\uFFFF\uFFFF\uFFFF\uFFFF\uFFFF\uFFFF\uFFFF\uFFFF\uFFFF\uFFFF\uFFFF\uFFFF\uFFFF\uFFFF\uFFFF\uFFFF\uFFFF\uFFFD｡｢｣､･ｦｧｨｩｪｫｬｭｮｯｰｱｲｳｴｵｶｷｸｹｺｻｼｽｾｿ",
      "ﾀﾁﾂﾃﾄﾅﾆﾇﾈﾉﾊﾋﾌﾍﾎﾏﾐﾑﾒﾓﾔﾕﾖﾗﾘﾙﾚﾛﾜﾝﾞﾟ\uFFFF\uFFFF\uFFFF\uFFFF\uFFFF\uFFFF\uFFFF\uFFFF\uFFFF\uFFFF\uFFFF\uFFFF\uFFFF\uFFFF\uFFFF\uFFFF\uFFFF\uFFFF\uFFFF\uFFFF\uFFFF\uFFFF\uFFFF\uFFFF\uFFFF\uFFFF\uFFFF\uFFFF\uFFFF\uFFFD\uFFFD\uFFFD"],
    rows := String.join [
      "81:3d6,82:3d7,83:3d8,84:3d9,85:3da,86:3db,87:3dc,88:3dd,89:369,8a:36a,8b:36b,8c:36c,",
      "8d:36d,8e:36e,8f:36f,90:370,91:371,92:372,93:373,94:374,95:375,96:376,97:377,98:3de,",
      "99:379,9a:37a,9b:37b,9c:37c,9d:37d,9e:37e,9f:37f,e0:380,e1:381,e2:382,e3:383,e4:384,",
      "e5:385,e6:386,e7:387,e8:388,e9:389,ea:3df,eb:3e0,ec:3e1,ed:3e2,ee:3e3,ef:3e4,f0:3e5,",
      "f1:3e6,f2:3e7,f3:3e8,f4:3e9,f5:3ea,f6:3eb,f7:3ec,f8:3ed,f9:3ee,fa:3ef,fb:3f0,fc:3f1,"] }
  | "shift_jisx0213" => some {
    leads := String.join [
      "\x00\x01\x02\x03\x04\x05\x06\x07\x08\x09\x0a\x0b\x0c\x0d\x0e\x0f\x10\x11\x12\x13\x14\x15\x16\x17\x18\x19\x1a\x1b\x1c\x1d\x1e\x1f !\"#$%&'()*+,-./0123456789:;<=>?",
      "@ABCDEFGHIJKLMNOPQRSTUVWXYZ[¥]^_`abcdefghijklmnopqrstuvwxyz\x7b|\x7d‾\x7f",
      "\uFFFD\uFFFF\uFFFF\uFFFF\uFFFF\uFFFF\uFFFF\uFFFF\uFFFF\uFFFF\uFFFF\uFFFF\uFFFF\uFFFF\uFFFF\uFFFF\uFFFF\uFFFF\uFFFF\uFFFF\uFFFF\uFFFF\uFFFF\uFFFF\uFFFF\uFFFF\uFFFF\uFFFF\uFFFF\uFFFF\uFFFF\uFFFF\uFFFD｡｢｣､･ｦｧｨｩｪｫｬｭｮｯｰｱｲｳｴｵｶｷｸｹｺｻｼｽｾｿ",
      "ﾀﾁﾂﾃﾄﾅﾆﾇﾈﾉﾊﾋﾌﾍﾎﾏﾐﾑﾒﾓﾔﾕﾖﾗﾘﾙﾚﾛﾜﾝﾞﾟ\uFFFF\uFFFF\uFFFF\uFFFF\uFFFF\uFFFF\uFFFF\uFFFF\uFFFF\uFFFF\uFFFF\uFFFF\uFFFF\uFFFF\uFFFF\uFFFF\uFFFF\uFFFF\uFFFF\uFFFF\uFFFF\uFFFF\uFFFF\uFFFF\uFFFF\uFFFF\uFFFF\uFFFF\uFFFF\uFFFD\uFFFD\uFFFD"],
    rows := String.join [
      "81:3d6,82:3d7,83:3d8,84:3d9,85:3da,86:3db,87:3f2,88:3f3,89:369,8a:36a,8b:36b,8c:36c,",
      "8d:36d,8e:36e,8f:36f,90:370,91:371,92:372,93:373,94:374,95:375,96:376,97:377,98:3f4,",
      "99:379,9a:37a,9b:37b,9c:37c,9d:37d,9e:37e,9f:37f,e0:380,e1:381,e2:382,e3:383,e4:384,",
      "e5:385,e6:386,e7:387,e8:388,e9:389,ea:3f5,eb:3e0,ec:3e1,ed:3e2,ee:3e3,ef:3f6,f0:3e5,",
      "f1:3e6,f2:3e7,f3:3e8,f4:3e9,f5:3ea,f6:3eb,f7:3ec,f8:3ed,f9:3ee,fa:3ef,fb:3f0,fc:3f7,"] }
  | _ => none

/-- A character set that an ISO 2022 text designates. -/
inductive GraphicSet where
  | ascii
  /-- JIS X 0201 Roman: ASCII with a yen sign for the backslash and an overline for the
  tilde. -/
  | roman
  | katakana
  /-- The upper half of ISO 8859-1, reached by a single shift. -/
  | latin
  /-- The upper half of ISO 8859-7, reached by a single shift. -/
  | greek
  /-- A set of two bytes per character, by the rows of its first byte (entries `byte:row`),
  the second byte looked up with its high bit set. -/
  | double (rows : String)
deriving Repr

/-- A code of the ISO 2022 family. -/
structure Iso2022Code where
  /-- The sets it may designate, by their final byte, `0x80` added for sets of two bytes. -/
  sets : List (Nat × GraphicSet)
  /-- Shift out and shift in switch between the first and the second set. -/
  shifts : Bool := false
  /-- `ESC N` takes the next byte from the third set. -/
  singleShift : Bool := false
  /-- `ESC & @` may stand before a designation of JIS X 0208. -/
  prefixed : Bool := true
deriving Repr

def iso2022Code? : String → Option Iso2022Code
  | "iso2022_jp" => some {
    sets := [
      (0xC2, .double (String.join [
        "21:2d7,22:2d8,23:2d9,24:82,25:83,26:84,27:85,28:2da,30:2db,31:2dc,32:2dd,33:2de,",
        "34:2df,35:2e0,36:2e1,37:2e2,38:2e3,39:2e4,3a:2e5,3b:2e6,3c:2e7,3d:2e8,3e:2e9,3f:2ea,",
        "40:2eb,41:2ec,42:2ed,43:2ee,44:2ef,45:2f0,46:2f1,47:2f2,48:2f3,49:2f4,4a:2f5,4b:2f6,",
        "4c:2f7,4d:2f8,4e:2f9,4f:2fa,50:2fb,51:2fc,52:2fd,53:2fe,54:2ff,55:300,56:301,57:302,",
        "58:303,59:304,5a:305,5b:306,5c:307,5d:308,5e:309,5f:30a,60:30b,61:30c,62:30d,63:30e,",
        "64:30f,65:310,66:311,67:312,68:313,69:314,6a:315,6b:316,6c:317,6d:318,6e:319,6f:31a,",
        "70:31b,71:31c,72:31d,73:31e,74:31f,"])),
      (0x4A, .roman),
      (0xC0, .double (String.join [
        "21:2d7,22:2d8,23:2d9,24:82,25:83,26:84,27:85,28:2da,30:2db,31:2dc,32:2dd,33:2de,",
        "34:2df,35:2e0,36:2e1,37:2e2,38:2e3,39:2e4,3a:2e5,3b:2e6,3c:2e7,3d:2e8,3e:2e9,3f:2ea,",
        "40:2eb,41:2ec,42:2ed,43:2ee,44:2ef,45:2f0,46:2f1,47:2f2,48:2f3,49:2f4,4a:2f5,4b:2f6,",
        "4c:2f7,4d:2f8,4e:2f9,4f:2fa,50:2fb,51:2fc,52:2fd,53:2fe,54:2ff,55:300,56:301,57:302,",
        "58:303,59:304,5a:305,5b:306,5c:307,5d:308,5e:309,5f:30a,60:30b,61:30c,62:30d,63:30e,",
        "64:30f,65:310,66:311,67:312,68:313,69:314,6a:315,6b:316,6c:317,6d:318,6e:319,6f:31a,",
        "70:31b,71:31c,72:31d,73:31e,74:31f,"]))] }
  | "iso2022_jp_1" => some {
    sets := [
      (0xC2, .double (String.join [
        "21:2d7,22:2d8,23:2d9,24:82,25:83,26:84,27:85,28:2da,30:2db,31:2dc,32:2dd,33:2de,",
        "34:2df,35:2e0,36:2e1,37:2e2,38:2e3,39:2e4,3a:2e5,3b:2e6,3c:2e7,3d:2e8,3e:2e9,3f:2ea,",
        "40:2eb,41:2ec,42:2ed,43:2ee,44:2ef,45:2f0,46:2f1,47:2f2,48:2f3,49:2f4,4a:2f5,4b:2f6,",
        "4c:2f7,4d:2f8,4e:2f9,4f:2fa,50:2fb,51:2fc,52:2fd,53:2fe,54:2ff,55:300,56:301,57:302,",
        "58:303,59:304,5a:305,5b:306,5c:307,5d:308,5e:309,5f:30a,60:30b,61:30c,62:30d,63:30e,",
        "64:30f,65:310,66:311,67:312,68:313,69:314,6a:315,6b:316,6c:317,6d:318,6e:319,6f:31a,",
        "70:31b,71:31c,72:31d,73:31e,74:31f,"])),
      (0xC4, .double (String.join [
        "22:320,26:321,27:322,29:323,2a:324,2b:325,30:326,31:327,32:328,33:329,34:32a,35:32b,",
        "36:32c,37:32d,38:32e,39:32f,3a:330,3b:331,3c:332,3d:333,3e:334,3f:335,40:336,41:337,",
        "42:338,43:339,44:33a,45:33b,46:33c,47:33d,48:33e,49:33f,4a:340,4b:341,4c:342,4d:343,",
        "4e:344,4f:345,50:346,51:347,52:348,53:349,54:34a,55:34b,56:34c,57:34d,58:34e,59:34f,",
        "5a:350,5b:351,5c:352,5d:353,5e:354,5f:355,60:356,61:357,62:358,63:359,64:35a,65:35b,",
        "66:35c,67:35d,68:35e,69:35f,6a:360,6b:361,6c:362,6d:363,"])),
      (0x4A, .roman),
      (0xC0, .double (String.join [
        "21:2d7,22:2d8,23:2d9,24:82,25:83,26:84,27:85,28:2da,30:2db,31:2dc,32:2dd,33:2de,",
        "34:2df,35:2e0,36:2e1,37:2e2,38:2e3,39:2e4,3a:2e5,3b:2e6,3c:2e7,3d:2e8,3e:2e9,3f:2ea,",
        "40:2eb,41:2ec,42:2ed,43:2ee,44:2ef,45:2f0,46:2f1,47:2f2,48:2f3,49:2f4,4a:2f5,4b:2f6,",
        "4c:2f7,4d:2f8,4e:2f9,4f:2fa,50:2fb,51:2fc,52:2fd,53:2fe,54:2ff,55:300,56:301,57:302,",
        "58:303,59:304,5a:305,5b:306,5c:307,5d:308,5e:309,5f:30a,60:30b,61:30c,62:30d,63:30e,",
        "64:30f,65:310,66:311,67:312,68:313,69:314,6a:315,6b:316,6c:317,6d:318,6e:319,6f:31a,",
        "70:31b,71:31c,72:31d,73:31e,74:31f,"]))] }
  | "iso2022_jp_2" => some {
    sets := [
      (0xC2, .double (String.join [
        "21:2d7,22:2d8,23:2d9,24:82,25:83,26:84,27:85,28:2da,30:2db,31:2dc,32:2dd,33:2de,",
        "34:2df,35:2e0,36:2e1,37:2e2,38:2e3,39:2e4,3a:2e5,3b:2e6,3c:2e7,3d:2e8,3e:2e9,3f:2ea,",
        "40:2eb,41:2ec,42:2ed,43:2ee,44:2ef,45:2f0,46:2f1,47:2f2,48:2f3,49:2f4,4a:2f5,4b:2f6,",
        "4c:2f7,4d:2f8,4e:2f9,4f:2fa,50:2fb,51:2fc,52:2fd,53:2fe,54:2ff,55:300,56:301,57:302,",
        "58:303,59:304,5a:305,5b:306,5c:307,5d:308,5e:309,5f:30a,60:30b,61:30c,62:30d,63:30e,",
        "64:30f,65:310,66:311,67:312,68:313,69:314,6a:315,6b:316,6c:317,6d:318,6e:319,6f:31a,",
        "70:31b,71:31c,72:31d,73:31e,74:31f,"])),
      (0xC4, .double (String.join [
        "22:320,26:321,27:322,29:323,2a:324,2b:325,30:326,31:327,32:328,33:329,34:32a,35:32b,",
        "36:32c,37:32d,38:32e,39:32f,3a:330,3b:331,3c:332,3d:333,3e:334,3f:335,40:336,41:337,",
        "42:338,43:339,44:33a,45:33b,46:33c,47:33d,48:33e,49:33f,4a:340,4b:341,4c:342,4d:343,",
        "4e:344,4f:345,50:346,51:347,52:348,53:349,54:34a,55:34b,56:34c,57:34d,58:34e,59:34f,",
        "5a:350,5b:351,5c:352,5d:353,5e:354,5f:355,60:356,61:357,62:358,63:359,64:35a,65:35b,",
        "66:35c,67:35d,68:35e,69:35f,6a:360,6b:361,6c:362,6d:363,"])),
      (0xC3, .double (String.join [
        "21:1c9,22:1ca,23:1cb,24:3f8,25:1cd,26:1ce,27:1cf,28:1d0,29:1d1,2a:82,2b:83,2c:85,",
        "30:1d2,31:1d3,32:1d4,33:1d5,34:1d6,35:1d7,36:1d8,37:1d9,38:1da,39:1db,3a:1dc,3b:1dd,",
        "3c:1de,3d:1df,3e:1e0,3f:1e1,40:1e2,41:1e3,42:1e4,43:1e5,44:1e6,45:1e7,46:1e8,47:1e9,",
        "48:1ea,4a:1eb,4b:1ec,4c:1ed,4d:1ee,4e:1ef,4f:1f0,50:1f1,51:1f2,52:1f3,53:1f4,54:1f5,",
        "55:1f6,56:1f7,57:1f8,58:1f9,59:1fa,5a:1fb,5b:1fc,5c:1fd,5d:1fe,5e:1ff,5f:200,60:201,",
        "61:202,62:203,63:204,64:205,65:206,66:207,67:208,68:209,69:20a,6a:20b,6b:20c,6c:20d,",
        "6d:20e,6e:20f,6f:210,70:211,71:212,72:213,73:214,74:215,75:216,76:217,77:218,78:219,",
        "79:21a,7a:21b,7b:21c,7c:21d,7d:21e,"])),
      (0xC1, .double (String.join [
        "21:7f,22:80,23:81,24:82,25:83,26:84,27:85,28:86,29:87,30:88,31:89,32:8a,33:8b,34:8c,",
        "35:8d,36:8e,37:8f,38:90,39:91,3a:92,3b:93,3c:94,3d:95,3e:96,3f:97,40:98,41:99,42:9a,",
        "43:9b,44:9c,45:9d,46:9e,47:9f,48:a0,49:a1,4a:a2,4b:a3,4c:a4,4d:a5,4e:a6,4f:a7,50:a8,",
        "51:a9,52:aa,53:ab,54:ac,55:ad,56:ae,57:af,58:b0,59:b1,5a:b2,5b:b3,5c:b4,5d:b5,5e:b6,",
        "5f:b7,60:b8,61:b9,62:ba,63:bb,64:bc,65:bd,66:be,67:bf,68:c0,69:c1,6a:c2,6b:c3,6c:c4,",
        "6d:c5,6e:c6,6f:c7,70:c8,71:c9,72:ca,73:cb,74:cc,75:cd,76:ce,77:cf,"])),
      (0x4A, .roman),
      (0xC0, .double (String.join [
        "21:2d7,22:2d8,23:2d9,24:82,25:83,26:84,27:85,28:2da,30:2db,31:2dc,32:2dd,33:2de,",
        "34:2df,35:2e0,36:2e1,37:2e2,38:2e3,39:2e4,3a:2e5,3b:2e6,3c:2e7,3d:2e8,3e:2e9,3f:2ea,",
        "40:2eb,41:2ec,42:2ed,43:2ee,44:2ef,45:2f0,46:2f1,47:2f2,48:2f3,49:2f4,4a:2f5,4b:2f6,",
        "4c:2f7,4d:2f8,4e:2f9,4f:2fa,50:2fb,51:2fc,52:2fd,53:2fe,54:2ff,55:300,56:301,57:302,",
        "58:303,59:304,5a:305,5b:306,5c:307,5d:308,5e:309,5f:30a,60:30b,61:30c,62:30d,63:30e,",
        "64:30f,65:310,66:311,67:312,68:313,69:314,6a:315,6b:316,6c:317,6d:318,6e:319,6f:31a,",
        "70:31b,71:31c,72:31d,73:31e,74:31f,"])),
      (0x41, .latin),
      (0x46, .greek)],
    singleShift := true }
  | "iso2022_jp_2004" => some {
    sets := [
      (0xD1, .double (String.join [
        "21:2d7,22:3f9,23:39d,24:39e,25:39f,26:3a0,27:3a1,28:3a2,29:3a3,2a:3a4,2b:3a5,2c:3a6,",
        "2d:3a7,2e:3a8,2f:3a9,30:2db,31:2dc,32:2dd,33:2de,34:2df,35:2e0,36:2e1,37:2e2,38:2e3,",
        "39:2e4,3a:2e5,3b:2e6,3c:2e7,3d:2e8,3e:2e9,3f:2ea,40:2eb,41:2ec,42:2ed,43:2ee,44:2ef,",
        "45:2f0,46:2f1,47:2f2,48:2f3,49:2f4,4a:2f5,4b:2f6,4c:2f7,4d:2f8,4e:2f9,4f:3aa,50:2fb,",
        "51:2fc,52:2fd,53:2fe,54:2ff,55:300,56:301,57:302,58:303,59:304,5a:305,5b:306,5c:307,",
        "5d:308,5e:309,5f:30a,60:30b,61:30c,62:30d,63:30e,64:30f,65:310,66:311,67:312,68:313,",
        "69:314,6a:315,6b:316,6c:317,6d:318,6e:319,6f:31a,70:31b,71:31c,72:31d,73:31e,74:3ab,",
        "75:3ac,76:3ad,77:3ae,78:3af,79:3b0,7a:3b1,7b:3b2,7c:3b3,7d:3b4,7e:3b5,"])),
      (0xC2, .double (String.join [
        "21:2d7,22:2d8,23:2d9,24:82,25:83,26:84,27:85,28:2da,30:2db,31:2dc,32:2dd,33:2de,",
        "34:2df,35:2e0,36:2e1,37:2e2,38:2e3,39:2e4,3a:2e5,3b:2e6,3c:2e7,3d:2e8,3e:2e9,3f:2ea,",
        "40:2eb,41:2ec,42:2ed,43:2ee,44:2ef,45:2f0,46:2f1,47:2f2,48:2f3,49:2f4,4a:2f5,4b:2f6,",
        "4c:2f7,4d:2f8,4e:2f9,4f:2fa,50:2fb,51:2fc,52:2fd,53:2fe,54:2ff,55:300,56:301,57:302,",
        "58:303,59:304,5a:305,5b:306,5c:307,5d:308,5e:309,5f:30a,60:30b,61:30c,62:30d,63:30e,",
        "64:30f,65:310,66:311,67:312,68:313,69:314,6a:315,6b:316,6c:317,6d:318,6e:319,6f:31a,",
        "70:31b,71:31c,72:31d,73:31e,74:31f,"])),
      (0xD0, .double (String.join [
        "21:3b6,23:3b7,24:3b8,25:3b9,28:3ba,2c:3bb,2d:3bc,2e:3bd,2f:3be,6e:3bf,6f:3c0,70:3c1,",
        "71:3c2,72:3c3,73:3c4,74:3c5,75:3c6,76:3c7,77:3c8,78:3c9,79:3ca,7a:3cb,7b:3cc,7c:3cd,",
        "7d:3ce,7e:3cf,"]))] }
  | "iso2022_jp_3" => some {
    sets := [
      (0xCF, .double (String.join [
        "21:2d7,22:3f9,23:39d,24:39e,25:39f,26:3a0,27:3a1,28:3a2,29:3a3,2a:3a4,2b:3a5,2c:3a6,",
        "2d:3a7,2e:3fa,2f:3fb,30:2db,31:2dc,32:2dd,33:2de,34:2df,35:2e0,36:2e1,37:2e2,38:2e3,",
        "39:2e4,3a:2e5,3b:2e6,3c:2e7,3d:2e8,3e:2e9,3f:2ea,40:2eb,41:2ec,42:2ed,43:2ee,44:2ef,",
        "45:2f0,46:2f1,47:2f2,48:2f3,49:2f4,4a:2f5,4b:2f6,4c:2f7,4d:2f8,4e:2f9,4f:3fc,50:2fb,",
        "51:2fc,52:2fd,53:2fe,54:2ff,55:300,56:301,57:302,58:303,59:304,5a:305,5b:306,5c:307,",
        "5d:308,5e:309,5f:30a,60:30b,61:30c,62:30d,63:30e,64:30f,65:310,66:311,67:312,68:313,",
        "69:314,6a:315,6b:316,6c:317,6d:318,6e:319,6f:31a,70:31b,71:31c,72:31d,73:31e,74:3fd,",
        "75:3ac,76:3ad,77:3ae,78:3af,79:3b0,7a:3b1,7b:3b2,7c:3b3,7d:3b4,7e:3fe,"])),
      (0xC2, .double (String.join [
        "21:2d7,22:2d8,23:2d9,24:82,25:83,26:84,27:85,28:2da,30:2db,31:2dc,32:2dd,33:2de,",
        "34:2df,35:2e0,36:2e1,37:2e2,38:2e3,39:2e4,3a:2e5,3b:2e6,3c:2e7,3d:2e8,3e:2e9,3f:2ea,",
        "40:2eb,41:2ec,42:2ed,43:2ee,44:2ef,45:2f0,46:2f1,47:2f2,48:2f3,49:2f4,4a:2f5,4b:2f6,",
        "4c:2f7,4d:2f8,4e:2f9,4f:2fa,50:2fb,51:2fc,52:2fd,53:2fe,54:2ff,55:300,56:301,57:302,",
        "58:303,59:304,5a:305,5b:306,5c:307,5d:308,5e:309,5f:30a,60:30b,61:30c,62:30d,63:30e,",
        "64:30f,65:310,66:311,67:312,68:313,69:314,6a:315,6b:316,6c:317,6d:318,6e:319,6f:31a,",
        "70:31b,71:31c,72:31d,73:31e,74:31f,"])),
      (0xD0, .double (String.join [
        "21:3b6,23:3b7,24:3b8,25:3b9,28:3ba,2c:3bb,2d:3bc,2e:3bd,2f:3be,6e:3bf,6f:3c0,70:3c1,",
        "71:3c2,72:3c3,73:3c4,74:3c5,75:3c6,76:3c7,77:3c8,78:3c9,79:3ca,7a:3cb,7b:3cc,7c:3cd,",
        "7d:3ce,7e:3cf,"]))] }
  | "iso2022_jp_ext" => some {
    sets := [
      (0xC2, .double (String.join [
        "21:2d7,22:2d8,23:2d9,24:82,25:83,26:84,27:85,28:2da,30:2db,31:2dc,32:2dd,33:2de,",
        "34:2df,35:2e0,36:2e1,37:2e2,38:2e3,39:2e4,3a:2e5,3b:2e6,3c:2e7,3d:2e8,3e:2e9,3f:2ea,",
        "40:2eb,41:2ec,42:2ed,43:2ee,44:2ef,45:2f0,46:2f1,47:2f2,48:2f3,49:2f4,4a:2f5,4b:2f6,",
        "4c:2f7,4d:2f8,4e:2f9,4f:2fa,50:2fb,51:2fc,52:2fd,53:2fe,54:2ff,55:300,56:301,57:302,",
        "58:303,59:304,5a:305,5b:306,5c:307,5d:308,5e:309,5f:30a,60:30b,61:30c,62:30d,63:30e,",
        "64:30f,65:310,66:311,67:312,68:313,69:314,6a:315,6b:316,6c:317,6d:318,6e:319,6f:31a,",
        "70:31b,71:31c,72:31d,73:31e,74:31f,"])),
      (0xC4, .double (String.join [
        "22:320,26:321,27:322,29:323,2a:324,2b:325,30:326,31:327,32:328,33:329,34:32a,35:32b,",
        "36:32c,37:32d,38:32e,39:32f,3a:330,3b:331,3c:332,3d:333,3e:334,3f:335,40:336,41:337,",
        "42:338,43:339,44:33a,45:33b,46:33c,47:33d,48:33e,49:33f,4a:340,4b:341,4c:342,4d:343,",
        "4e:344,4f:345,50:346,51:347,52:348,53:349,54:34a,55:34b,56:34c,57:34d,58:34e,59:34f,",
        "5a:350,5b:351,5c:352,5d:353,5e:354,5f:355,60:356,61:357,62:358,63:359,64:35a,65:35b,",
        "66:35c,67:35d,68:35e,69:35f,6a:360,6b:361,6c:362,6d:363,"])),
      (0x4A, .roman),
      (0x49, .katakana),
      (0xC0, .double (String.join [
        "21:2d7,22:2d8,23:2d9,24:82,25:83,26:84,27:85,28:2da,30:2db,31:2dc,32:2dd,33:2de,",
        "34:2df,35:2e0,36:2e1,37:2e2,38:2e3,39:2e4,3a:2e5,3b:2e6,3c:2e7,3d:2e8,3e:2e9,3f:2ea,",
        "40:2eb,41:2ec,42:2ed,43:2ee,44:2ef,45:2f0,46:2f1,47:2f2,48:2f3,49:2f4,4a:2f5,4b:2f6,",
        "4c:2f7,4d:2f8,4e:2f9,4f:2fa,50:2fb,51:2fc,52:2fd,53:2fe,54:2ff,55:300,56:301,57:302,",
        "58:303,59:304,5a:305,5b:306,5c:307,5d:308,5e:309,5f:30a,60:30b,61:30c,62:30d,63:30e,",
        "64:30f,65:310,66:311,67:312,68:313,69:314,6a:315,6b:316,6c:317,6d:318,6e:319,6f:31a,",
        "70:31b,71:31c,72:31d,73:31e,74:31f,"]))] }
  | "iso2022_kr" => some {
    sets := [
      (0xC3, .double (String.join [
        "21:1c9,22:1ca,23:1cb,24:3f8,25:1cd,26:1ce,27:1cf,28:1d0,29:1d1,2a:82,2b:83,2c:85,",
        "30:1d2,31:1d3,32:1d4,33:1d5,34:1d6,35:1d7,36:1d8,37:1d9,38:1da,39:1db,3a:1dc,3b:1dd,",
        "3c:1de,3d:1df,3e:1e0,3f:1e1,40:1e2,41:1e3,42:1e4,43:1e5,44:1e6,45:1e7,46:1e8,47:1e9,",
        "48:1ea,4a:1eb,4b:1ec,4c:1ed,4d:1ee,4e:1ef,4f:1f0,50:1f1,51:1f2,52:1f3,53:1f4,54:1f5,",
        "55:1f6,56:1f7,57:1f8,58:1f9,59:1fa,5a:1fb,5b:1fc,5c:1fd,5d:1fe,5e:1ff,5f:200,60:201,",
        "61:202,62:203,63:204,64:205,65:206,66:207,67:208,68:209,69:20a,6a:20b,6b:20c,6c:20d,",
        "6d:20e,6e:20f,6f:210,70:211,71:212,72:213,73:214,74:215,75:216,76:217,77:218,78:219,",
        "79:21a,7a:21b,7b:21c,7c:21d,7d:21e,"]))],
    shifts := true, prefixed := false }
  | _ => none

/-- The characters of ISO 8859-7 as a single shift reads them, by the byte after `ESC N`;
U+FFFD where a byte stands for nothing. -/
def greekShifted : String := String.join [
    "\u0080\u0081\u0082\u0083\u0084\u0085\u0086\u0087\u0088\u0089\u008A\u008B\u008C\u008D\u008E\u008F\u0090\u0091\u0092\u0093\u0094\u0095\u0096\u0097\u0098\u0099\u009A\u009B\u009C\u009D\u009E\u009F",
    "\u00A0‘’£\uFFFD\uFFFD¦§¨©\uFFFD«¬\u00AD\uFFFD―°±²³΄΅Ά·ΈΉΊ»Ό½ΎΏ",
    "ΐΑΒΓΔΕΖΗΘΙΚΛΜΝΞΟΠΡ\uFFFDΣΤΥΦΧΨΩΪΫάέήί",
    "ΰαβγδεζηθικλμνξοπρςστυφχψωϊϋόύώ\uFFFD",
    "\x00\x01\x02\x03\x04\x05\x06\x07\x08\x09\x0a\x0b\x0c\x0d\x0e\x0f\x10\x11\x12\x13\x14\x15\x16\x17\x18\x19\x1a\x1b\x1c\x1d\x1e\x1f",
    " !\"#$%&'()*+,-./0123456789:;<=>?",
    "@ABCDEFGHIJKLMNOPQRSTUVWXYZ[\\]^_",
    "`abcdefghijklmnopqrstuvwxyz\x7b|\x7d~\x7f"]

end SuggestGateway
