import SuggestGateway.Text.RunTable
/-!
# Character traits

The properties of a character that heuristics about the quality of decoded text look at, one
bit each, as the string methods and the character database report them: whether the character
is printable, blank, alphabetic, upper or lower case, or a digit; whether its general category
is punctuation, a symbol or number, an other letter, or a separator in the wide sense (a
space, or connector, dash or other punctuation); and which words its Unicode name holds: an
accent (`WITH GRAVE`, `WITH ACUTE`, `WITH CEDILLA`, `WITH DIAERESIS`, `WITH CIRCUMFLEX`,
`WITH TILDE`, `WITH MACRON`, `WITH RING ABOVE`), `LATIN`, `CJK`, `HANGUL`, `KATAKANA`,
`HIRAGANA`, `THAI`, `ARABIC`, and `ARABIC` with `ISOLATED FORM`. A character without a name
has none of the name traits. The accented Latin letters also have the first character of their
decomposition, the letter without its accent.
-/
namespace SuggestGateway

/-- A trait of characters, by its bit in the trait table. -/
inductive Trait where
  | printable
  | space
  | alpha
  | upper
  | lower
  | digit
  | punctuationCategory
  | symbolCategory
  | otherLetter
  | separatorCategory
  | accented
  | latinName
  | cjkName
  | hangulName
  | katakanaName
  | hiraganaName
  | thaiName
  | arabicName
  | isolatedForm
deriving DecidableEq, Repr

def Trait.bit : Trait → Nat
  | .printable => 0
  | .space => 1
  | .alpha => 2
  | .upper => 3
  | .lower => 4
  | .digit => 5
  | .punctuationCategory => 6
  | .symbolCategory => 7
  | .otherLetter => 8
  | .separatorCategory => 9
  | .accented => 10
  | .latinName => 11
  | .cjkName => 12
  | .hangulName => 13
  | .katakanaName => 14
  | .hiraganaName => 15
  | .thaiName => 16
  | .arabicName => 17
  | .isolatedForm => 18

/-- Where the traits change, with the bits that hold from there on. -/
def traitTable : RunTable := RunTable.parse <| String.join [
    "0:0,9:2,E:0,1C:2,20:203,21:241,24:81,25:241,28:41,2A:241,2B:81,2C:241,30:A1,3A:241,3C:81,3F:241,",
    "41:80D,5B:41,5C:241,5D:41,5E:81,5F:241,60:81,61:815,7B:41,7C:81,7D:41,7E:81,7F:0,85:2,86:0,",
    "A0:202,A1:241,A2:81,A7:241,A8:81,AA:115,AB:41,AC:81,AD:0,AE:81,B2:A1,B4:81,B5:15,B6:241,B8:81,",
    "B9:A1,BA:115,BB:41,BC:81,BF:241,C0:C0D,C6:80D,C7:C0D,D0:80D,D1:C0D,D7:81,D8:80D,D9:C0D,DE:80D,",
    "DF:815,E0:C15,E6:815,E7:C15,F0:815,F1:C15,F7:81,F8:815,F9:C15,FE:815,FF:C15,100:C0D,101:C15,",
    "102:80D,103:815,104:80D,105:815,106:C0D,107:C15,108:C0D,109:C15,10A:80D,10B:815,10C:80D,10D:815,",
    "10E:80D,10F:815,110:80D,111:815,112:C0D,113:C15,114:80D,115:815,116:80D,117:815,118:80D,119:815,",
    "11A:80D,11B:815,11C:C0D,11D:C15,11E:80D,11F:815,120:80D,121:815,122:C0D,123:C15,124:C0D,125:C15,",
    "126:80D,127:815,128:C0D,129:C15,12A:C0D,12B:C15,12C:80D,12D:815,12E:80D,12F:815,130:80D,131:815,",
    "132:80D,133:815,134:C0D,135:C15,136:C0D,137:C15,138:815,139:C0D,13A:C15,13B:C0D,13C:C15,13D:80D,",
    "13E:815,13F:80D,140:815,141:80D,142:815,143:C0D,144:C15,145:C0D,146:C15,147:80D,148:815,14A:80D,",
    "14B:815,14C:C0D,14D:C15,14E:80D,14F:815,150:80D,151:815,152:80D,153:815,154:C0D,155:C15,156:C0D,",
    "157:C15,158:80D,159:815,15A:C0D,15B:C15,15C:C0D,15D:C15,15E:C0D,15F:C15,160:80D,161:815,162:C0D,",
    "163:C15,164:80D,165:815,166:80D,167:815,168:C0D,169:C15,16A:C0D,16B:C15,16C:80D,16D:815,16E:C0D,",
    "16F:C15,170:80D,171:815,172:80D,173:815,174:C0D,175:C15,176:C0D,177:C15,178:C0D,17A:C15,17B:80D,",
    "17C:815,17D:80D,17E:815,181:80D,183:815,184:80D,185:815,186:80D,188:815,189:80D,18C:815,18E:80D,",
    "192:815,193:80D,195:815,196:80D,199:815,19C:80D,19E:815,19F:80D,1A1:815,1A2:80D,1A3:815,1A4:80D,",
    "1A5:815,1A6:80D,1A8:815,1A9:80D,1AA:815,1AC:80D,1AD:815,1AE:80D,1B0:815,1B1:80D,1B4:815,1B5:80D,",
    "1B6:815,1B7:80D,1B9:815,1BB:905,1BC:80D,1BD:815,1C0:905,1C4:80D,1C5:805,1C6:815,1C7:80D,1C8:805,",
    "1C9:815,1CA:80D,1CB:805,1CC:815,1CD:80D,1CE:815,1CF:80D,1D0:815,1D1:80D,1D2:815,1D3:80D,1D4:815,",
    "1D5:C0D,1D6:C15,1D7:C0D,1D8:C15,1D9:C0D,1DA:C15,1DB:C0D,1DC:C15,1DD:815,1DE:C0D,1DF:C15,1E0:80D,",
    "1E1:815,1E2:C0D,1E3:C15,1E4:80D,1E5:815,1E6:80D,1E7:815,1E8:80D,1E9:815,1EA:80D,1EB:815,1EC:80D,",
    "1ED:815,1EE:80D,1EF:815,1F1:80D,1F2:805,1F3:815,1F4:C0D,1F5:C15,1F6:80D,1F8:C0D,1F9:C15,1FA:C0D,",
    "1FB:C15,1FC:C0D,1FD:C15,1FE:80D,1FF:815,200:80D,201:815,202:80D,203:815,204:80D,205:815,206:80D,",
    "207:815,208:80D,209:815,20A:80D,20B:815,20C:80D,20D:815,20E:80D,20F:815,210:80D,211:815,212:80D,",
    "213:815,214:80D,215:815,216:80D,217:815,218:80D,219:815,21A:80D,21B:815,21C:80D,21D:815,21E:80D,",
    "21F:815,220:80D,221:815,222:80D,223:815,224:80D,225:815,226:80D,227:815,228:C0D,229:C15,22A:C0D,",
    "22B:C15,22C:C0D,22D:C15,22E:80D,22F:815,230:80D,231:815,232:C0D,233:C15,234:815,23A:80D,23C:815,",
    "23D:80D,23F:815,241:80D,242:815,243:80D,247:815,248:80D,249:815,24A:80D,24B:815,24C:80D,24D:815,",
    "24E:80D,24F:815,294:905,295:815,2B0:15,2B9:5,2C0:15,2C2:81,2C6:5,2D2:81,2E0:15,2E5:81,2EC:5,",
    "2ED:81,2EE:5,2EF:81,300:1,345:11,346:1,363:801,370:D,371:15,372:D,373:15,374:5,375:81,376:D,",
    "377:15,378:0,37A:15,37E:241,37F:D,380:0,384:81,386:D,387:241,388:D,38B:0,38C:D,38D:0,38E:D,",
    "390:15,391:D,3A2:0,3A3:D,3AC:15,3CF:D,3D0:15,3D2:D,3D3:40D,3D5:15,3D8:D,3D9:15,3DA:D,3DB:15,",
    "3DC:D,3DD:15,3DE:D,3DF:15,3E0:D,3E1:15,3E2:D,3E3:15,3E4:D,3E5:15,3E6:D,3E7:15,3E8:D,3E9:15,",
    "3EA:D,3EB:15,3EC:D,3ED:15,3EE:D,3EF:15,3F4:D,3F5:15,3F6:81,3F7:D,3F8:15,3F9:D,3FB:15,3FD:D,",
    "400:40D,401:D,40D:40D,40E:D,430:15,450:415,451:15,45D:415,45E:15,460:D,461:15,462:D,463:15,",
    "464:D,465:15,466:D,467:15,468:D,469:15,46A:D,46B:15,46C:D,46D:15,46E:D,46F:15,470:D,471:15,",
    "472:D,473:15,474:D,475:15,476:D,477:15,478:D,479:15,47A:D,47B:15,47C:D,47D:15,47E:D,47F:15,",
    "480:D,481:15,482:81,483:1,48A:D,48B:15,48C:D,48D:15,48E:D,48F:15,490:D,491:15,492:D,493:15,",
    "494:D,495:15,496:D,497:15,498:D,499:15,49A:D,49B:15,49C:D,49D:15,49E:D,49F:15,4A0:D,4A1:15,",
    "4A2:D,4A3:15,4A4:D,4A5:15,4A6:D,4A7:15,4A8:D,4A9:15,4AA:D,4AB:15,4AC:D,4AD:15,4AE:D,4AF:15,",
    "4B0:D,4B1:15,4B2:D,4B3:15,4B4:D,4B5:15,4B6:D,4B7:15,4B8:D,4B9:15,4BA:D,4BB:15,4BC:D,4BD:15,",
    "4BE:D,4BF:15,4C0:D,4C2:15,4C3:D,4C4:15,4C5:D,4C6:15,4C7:D,4C8:15,4C9:D,4CA:15,4CB:D,4CC:15,",
    "4CD:D,4CE:15,4D0:D,4D1:15,4D2:40D,4D3:415,4D4:D,4D5:15,4D6:D,4D7:15,4D8:D,4D9:15,4DA:40D,",
    "4DB:415,4DC:40D,4DD:415,4DE:40D,4DF:415,4E0:D,4E1:15,4E2:40D,4E3:415,4E4:40D,4E5:415,4E6:40D,",
    "4E7:415,4E8:D,4E9:15,4EA:40D,4EB:415,4EC:40D,4ED:415,4EE:40D,4EF:415,4F0:40D,4F1:415,4F2:D,",
    "4F3:15,4F4:40D,4F5:415,4F6:D,4F7:15,4F8:40D,4F9:415,4FA:D,4FB:15,4FC:D,4FD:15,4FE:D,4FF:15,",
    "500:D,501:15,502:D,503:15,504:D,505:15,506:D,507:15,508:D,509:15,50A:D,50B:15,50C:D,50D:15,",
    "50E:D,50F:15,510:D,511:15,512:D,513:15,514:D,515:15,516:D,517:15,518:D,519:15,51A:D,51B:15,",
    "51C:D,51D:15,51E:D,51F:15,520:D,521:15,522:D,523:15,524:D,525:15,526:D,527:15,528:D,529:15,",
    "52A:D,52B:15,52C:D,52D:15,52E:D,52F:15,530:0,531:D,557:0,559:5,55A:241,560:15,589:241,58B:0,",
    "58D:81,590:0,591:1,5BE:241,5BF:1,5C0:241,5C1:1,5C3:241,5C4:1,5C6:241,5C7:1,5C8:0,5D0:105,5EB:0,",
    "5EF:105,5F3:241,5F5:0,600:20000,606:20081,609:20241,60B:81,60C:20241,60E:20081,610:20001,",
    "61B:20241,61C:20000,61D:20241,620:20105,640:20005,641:20105,64B:20001,660:200A1,66A:20241,",
    "66E:20105,670:20001,671:20105,6D4:20241,6D5:20105,6D6:20001,6DD:20000,6DE:20081,6DF:20001,",
    "6E2:60001,6E3:20001,6E5:20005,6E7:20001,6E9:20081,6EA:20001,6EE:20105,6F0:200A1,6FA:20105,",
    "6FD:20081,6FF:20105,700:241,70E:0,710:105,711:1,712:105,730:1,74B:0,74D:105,750:20105,780:105,",
    "7A6:1,7B1:105,7B2:0,7C0:A1,7CA:105,7EB:1,7F4:5,7F6:81,7F7:241,7FA:5,7FB:0,7FD:1,7FE:81,800:105,",
    "816:1,81A:5,81B:1,824:5,825:1,828:5,829:1,82E:0,830:241,83F:0,840:105,859:1,85C:0,85E:241,85F:0,",
    "860:105,86B:0,870:20105,888:20081,889:20105,88F:0,890:20000,892:0,898:20001,8A0:20105,8C9:20005,",
    "8CA:20001,8E2:20000,8E3:20001,900:1,904:105,93A:1,93D:105,93E:1,950:105,951:1,958:105,962:1,",
    "964:241,966:A1,970:241,971:5,972:105,981:1,984:0,985:105,98D:0,98F:105,991:0,993:105,9A9:0,",
    "9AA:105,9B1:0,9B2:105,9B3:0,9B6:105,9BA:0,9BC:1,9BD:105,9BE:1,9C5:0,9C7:1,9C9:0,9CB:1,9CE:105,",
    "9CF:0,9D7:1,9D8:0,9DC:105,9DE:0,9DF:105,9E2:1,9E4:0,9E6:A1,9F0:105,9F2:81,9FC:105,9FD:241,9FE:1,",
    "9FF:0,A01:1,A04:0,A05:105,A0B:0,A0F:105,A11:0,A13:105,A29:0,A2A:105,A31:0,A32:105,A34:0,A35:105,",
    "A37:0,A38:105,A3A:0,A3C:1,A3D:0,A3E:1,A43:0,A47:1,A49:0,A4B:1,A4E:0,A51:1,A52:0,A59:105,A5D:0,",
    "A5E:105,A5F:0,A66:A1,A70:1,A72:105,A75:1,A76:241,A77:0,A81:1,A84:0,A85:105,A8E:0,A8F:105,A92:0,",
    "A93:105,AA9:0,AAA:105,AB1:0,AB2:105,AB4:0,AB5:105,ABA:0,ABC:1,ABD:105,ABE:1,AC6:0,AC7:1,ACA:0,",
    "ACB:1,ACE:0,AD0:105,AD1:0,AE0:105,AE2:1,AE4:0,AE6:A1,AF0:241,AF1:81,AF2:0,AF9:105,AFA:1,B00:0,",
    "B01:1,B04:0,B05:105,B0D:0,B0F:105,B11:0,B13:105,B29:0,B2A:105,B31:0,B32:105,B34:0,B35:105,B3A:0,",
    "B3C:1,B3D:105,B3E:1,B45:0,B47:1,B49:0,B4B:1,B4E:0,B55:1,B58:0,B5C:105,B5E:0,B5F:105,B62:1,B64:0,",
    "B66:A1,B70:81,B71:105,B72:81,B78:0,B82:1,B83:105,B84:0,B85:105,B8B:0,B8E:105,B91:0,B92:105,",
    "B96:0,B99:105,B9B:0,B9C:105,B9D:0,B9E:105,BA0:0,BA3:105,BA5:0,BA8:105,BAB:0,BAE:105,BBA:0,BBE:1,",
    "BC3:0,BC6:1,BC9:0,BCA:1,BCE:0,BD0:105,BD1:0,BD7:1,BD8:0,BE6:A1,BF0:81,BFB:0,C00:1,C05:105,C0D:0,",
    "C0E:105,C11:0,C12:105,C29:0,C2A:105,C3A:0,C3C:1,C3D:105,C3E:1,C45:0,C46:1,C49:0,C4A:1,C4E:0,",
    "C55:1,C57:0,C58:105,C5B:0,C5D:105,C5E:0,C60:105,C62:1,C64:0,C66:A1,C70:0,C77:241,C78:81,C80:105,",
    "C81:1,C84:241,C85:105,C8D:0,C8E:105,C91:0,C92:105,CA9:0,CAA:105,CB4:0,CB5:105,CBA:0,CBC:1,",
    "CBD:105,CBE:1,CC5:0,CC6:1,CC9:0,CCA:1,CCE:0,CD5:1,CD7:0,CDD:105,CDF:0,CE0:105,CE2:1,CE4:0,",
    "CE6:A1,CF0:0,CF1:105,CF3:0,D00:1,D04:105,D0D:0,D0E:105,D11:0,D12:105,D3B:1,D3D:105,D3E:1,D45:0,",
    "D46:1,D49:0,D4A:1,D4E:105,D4F:81,D50:0,D54:105,D57:1,D58:81,D5F:105,D62:1,D64:0,D66:A1,D70:81,",
    "D7A:105,D80:0,D81:1,D84:0,D85:105,D97:0,D9A:105,DB2:0,DB3:105,DBC:0,DBD:105,DBE:0,DC0:105,DC7:0,",
    "DCA:1,DCB:0,DCF:1,DD5:0,DD6:1,DD7:0,DD8:1,DE0:0,DE6:A1,DF0:0,DF2:1,DF4:241,DF5:0,E01:10105,",
    "E31:10001,E32:10105,E34:10001,E3B:0,E3F:10081,E40:10105,E46:10005,E47:10001,E4F:10241,E50:100A1,",
    "E5A:10241,E5C:0,E81:105,E83:0,E84:105,E85:0,E86:105,E8B:0,E8C:105,EA4:0,EA5:105,EA6:0,EA7:105,",
    "EB1:1,EB2:105,EB4:1,EBD:105,EBE:0,EC0:105,EC5:0,EC6:5,EC7:0,EC8:1,ECE:0,ED0:A1,EDA:0,EDC:105,",
    "EE0:0,F00:105,F01:81,F04:241,F13:81,F14:241,F15:81,F18:1,F1A:81,F20:A1,F2A:81,F35:1,F36:81,",
    "F37:1,F38:81,F39:1,F3A:41,F3E:1,F40:105,F48:0,F49:105,F6D:0,F71:1,F85:241,F86:1,F88:105,F8D:1,",
    "F98:0,F99:1,FBD:0,FBE:81,FC6:1,FC7:81,FCD:0,FCE:81,FD0:241,FD5:81,FD9:241,FDB:0,1000:105,102B:1,",
    "103F:105,1040:A1,104A:241,1050:105,1056:1,105A:105,105E:1,1061:105,1062:1,1065:105,1067:1,",
    "106E:105,1071:1,1075:105,1082:1,108E:105,108F:1,1090:A1,109A:1,109E:81,10A0:D,10C6:0,10C7:D,",
    "10C8:0,10CD:D,10CE:0,10D0:15,10FB:241,10FC:5,10FD:15,1100:2105,1200:105,1249:0,124A:105,124E:0,",
    "1250:105,1257:0,1258:105,1259:0,125A:105,125E:0,1260:105,1289:0,128A:105,128E:0,1290:105,12B1:0,",
    "12B2:105,12B6:0,12B8:105,12BF:0,12C0:105,12C1:0,12C2:105,12C6:0,12C8:105,12D7:0,12D8:105,1311:0,",
    "1312:105,1316:0,1318:105,135B:0,135D:1,1360:241,1369:A1,1372:81,137D:0,1380:105,1390:81,139A:0,",
    "13A0:D,13F6:0,13F8:15,13FE:0,1400:241,1401:105,166D:81,166E:241,166F:105,1680:202,1681:105,",
    "169B:41,169D:0,16A0:105,16EB:241,16EE:81,16F1:105,16F9:0,1700:105,1712:1,1716:0,171F:105,1732:1,",
    "1735:241,1737:0,1740:105,1752:1,1754:0,1760:105,176D:0,176E:105,1771:0,1772:1,1774:0,1780:105,",
    "17B4:1,17D4:241,17D7:5,17D8:241,17DB:81,17DC:105,17DD:1,17DE:0,17E0:A1,17EA:0,17F0:81,17FA:0,",
    "1800:241,180B:1,180E:0,180F:1,1810:A1,181A:0,1820:105,1843:5,1844:105,1879:0,1880:105,1885:1,",
    "1887:105,18A9:1,18AA:105,18AB:0,18B0:105,18F6:0,1900:105,191F:0,1920:1,192C:0,1930:1,193C:0,",
    "1940:81,1941:0,1944:241,1946:A1,1950:105,196E:0,1970:105,1975:0,1980:105,19AC:0,19B0:105,19CA:0,",
    "19D0:A1,19DB:0,19DE:81,1A00:105,1A17:1,1A1C:0,1A1E:241,1A20:105,1A55:1,1A5F:0,1A60:1,1A7D:0,",
    "1A7F:1,1A80:A1,1A8A:0,1A90:A1,1A9A:0,1AA0:241,1AA7:5,1AA8:241,1AAE:0,1AB0:1,1ABF:801,1AC1:1,",
    "1ACC:801,1ACF:0,1B00:1,1B05:105,1B34:1,1B45:105,1B4D:0,1B50:A1,1B5A:241,1B61:81,1B6B:1,1B74:81,",
    "1B7D:241,1B7F:0,1B80:1,1B83:105,1BA1:1,1BAE:105,1BB0:A1,1BBA:105,1BE6:1,1BF4:0,1BFC:241,",
    "1C00:105,1C24:1,1C38:0,1C3B:241,1C40:A1,1C4A:0,1C4D:105,1C50:A1,1C5A:105,1C78:5,1C7E:241,",
    "1C80:15,1C89:0,1C90:D,1CBB:0,1CBD:D,1CC0:241,1CC8:0,1CD0:1,1CD3:241,1CD4:1,1CE9:105,1CED:1,",
    "1CEE:105,1CF4:1,1CF5:105,1CF7:1,1CFA:105,1CFB:0,1D00:815,1D26:15,1D62:815,1D66:15,1D6B:815,",
    "1D78:15,1D79:815,1D9B:15,1DC0:1,1DCA:801,1DCB:1,1DD3:801,1DF2:C01,1DF5:1,1E00:80D,1E01:815,",
    "1E02:80D,1E03:815,1E04:80D,1E05:815,1E06:80D,1E07:815,1E08:C0D,1E09:C15,1E0A:80D,1E0B:815,",
    "1E0C:80D,1E0D:815,1E0E:80D,1E0F:815,1E10:C0D,1E11:C15,1E12:C0D,1E13:C15,1E14:C0D,1E15:C15,",
    "1E16:C0D,1E17:C15,1E18:C0D,1E19:C15,1E1A:C0D,1E1B:C15,1E1C:C0D,1E1D:C15,1E1E:80D,1E1F:815,",
    "1E20:C0D,1E21:C15,1E22:80D,1E23:815,1E24:80D,1E25:815,1E26:C0D,1E27:C15,1E28:C0D,1E29:C15,",
    "1E2A:80D,1E2B:815,1E2C:C0D,1E2D:C15,1E2E:C0D,1E2F:C15,1E30:C0D,1E31:C15,1E32:80D,1E33:815,",
    "1E34:80D,1E35:815,1E36:80D,1E37:815,1E38:80D,1E39:815,1E3A:80D,1E3B:815,1E3C:C0D,1E3D:C15,",
    "1E3E:C0D,1E3F:C15,1E40:80D,1E41:815,1E42:80D,1E43:815,1E44:80D,1E45:815,1E46:80D,1E47:815,",
    "1E48:80D,1E49:815,1E4A:C0D,1E4B:C15,1E4C:C0D,1E4D:C15,1E4E:C0D,1E4F:C15,1E50:C0D,1E51:C15,",
    "1E52:C0D,1E53:C15,1E54:C0D,1E55:C15,1E56:80D,1E57:815,1E58:80D,1E59:815,1E5A:80D,1E5B:815,",
    "1E5C:80D,1E5D:815,1E5E:80D,1E5F:815,1E60:80D,1E61:815,1E62:80D,1E63:815,1E64:C0D,1E65:C15,",
    "1E66:80D,1E67:815,1E68:80D,1E69:815,1E6A:80D,1E6B:815,1E6C:80D,1E6D:815,1E6E:80D,1E6F:815,",
    "1E70:C0D,1E71:C15,1E72:C0D,1E73:C15,1E74:C0D,1E75:C15,1E76:C0D,1E77:C15,1E78:C0D,1E79:C15,",
    "1E7A:C0D,1E7B:C15,1E7C:C0D,1E7D:C15,1E7E:80D,1E7F:815,1E80:C0D,1E81:C15,1E82:C0D,1E83:C15,",
    "1E84:C0D,1E85:C15,1E86:80D,1E87:815,1E88:80D,1E89:815,1E8A:80D,1E8B:815,1E8C:C0D,1E8D:C15,",
    "1E8E:80D,1E8F:815,1E90:C0D,1E91:C15,1E92:80D,1E93:815,1E94:80D,1E95:815,1E97:C15,1E9A:815,",
    "1E9E:80D,1E9F:815,1EA0:80D,1EA1:815,1EA2:80D,1EA3:815,1EA4:C0D,1EA5:C15,1EA6:C0D,1EA7:C15,",
    "1EA8:C0D,1EA9:C15,1EAA:C0D,1EAB:C15,1EAC:C0D,1EAD:C15,1EAE:80D,1EAF:815,1EB0:80D,1EB1:815,",
    "1EB2:80D,1EB3:815,1EB4:80D,1EB5:815,1EB6:80D,1EB7:815,1EB8:80D,1EB9:815,1EBA:80D,1EBB:815,",
    "1EBC:C0D,1EBD:C15,1EBE:C0D,1EBF:C15,1EC0:C0D,1EC1:C15,1EC2:C0D,1EC3:C15,1EC4:C0D,1EC5:C15,",
    "1EC6:C0D,1EC7:C15,1EC8:80D,1EC9:815,1ECA:80D,1ECB:815,1ECC:80D,1ECD:815,1ECE:80D,1ECF:815,",
    "1ED0:C0D,1ED1:C15,1ED2:C0D,1ED3:C15,1ED4:C0D,1ED5:C15,1ED6:C0D,1ED7:C15,1ED8:C0D,1ED9:C15,",
    "1EDA:80D,1EDB:815,1EDC:80D,1EDD:815,1EDE:80D,1EDF:815,1EE0:80D,1EE1:815,1EE2:80D,1EE3:815,",
    "1EE4:80D,1EE5:815,1EE6:80D,1EE7:815,1EE8:80D,1EE9:815,1EEA:80D,1EEB:815,1EEC:80D,1EED:815,",
    "1EEE:80D,1EEF:815,1EF0:80D,1EF1:815,1EF2:C0D,1EF3:C15,1EF4:80D,1EF5:815,1EF6:80D,1EF7:815,",
    "1EF8:C0D,1EF9:C15,1EFA:80D,1EFB:815,1EFC:80D,1EFD:815,1EFE:80D,1EFF:815,1F00:15,1F08:D,1F10:15,",
    "1F16:0,1F18:D,1F1E:0,1F20:15,1F28:D,1F30:15,1F38:D,1F40:15,1F46:0,1F48:D,1F4E:0,1F50:15,1F58:0,",
    "1F59:D,1F5A:0,1F5B:D,1F5C:0,1F5D:D,1F5E:0,1F5F:D,1F60:15,1F68:D,1F70:15,1F7E:0,1F80:15,1F88:5,",
    "1F90:15,1F98:5,1FA0:15,1FA8:5,1FB0:15,1FB1:415,1FB2:15,1FB5:0,1FB6:15,1FB8:D,1FB9:40D,1FBA:D,",
    "1FBC:5,1FBD:81,1FBE:15,1FBF:81,1FC2:15,1FC5:0,1FC6:15,1FC8:D,1FCC:5,1FCD:81,1FD0:15,1FD1:415,",
    "1FD2:15,1FD4:0,1FD6:15,1FD8:D,1FD9:40D,1FDA:D,1FDC:0,1FDD:81,1FE0:15,1FE1:415,1FE2:15,1FE8:D,",
    "1FE9:40D,1FEA:D,1FED:81,1FF0:0,1FF2:15,1FF5:0,1FF6:15,1FF8:D,1FFC:5,1FFD:81,1FFF:0,2000:202,",
    "200B:0,2010:241,2018:41,2020:241,2028:202,202A:0,202F:202,2030:241,2039:41,203B:241,2044:81,",
    "2045:41,2047:241,2052:81,2053:241,205F:202,2060:0,206C:20000,206E:0,2070:A1,2071:815,2072:0,",
    "2074:A1,207A:81,207D:41,207F:815,2080:A1,208A:81,208D:41,208F:0,2090:815,209D:0,20A0:81,20C1:0,",
    "20D0:1,20F1:0,2100:81,2102:D,2103:81,2107:D,2108:81,210A:15,210B:D,210E:15,2110:D,2113:15,",
    "2114:81,2115:D,2116:81,2119:D,211E:81,2124:D,2125:81,2126:D,2127:81,2128:D,2129:81,212A:D,",
    "212E:81,212F:15,2130:D,2134:15,2135:105,2139:15,213A:81,213C:15,213E:D,2140:81,2145:D,2146:15,",
    "214A:81,214E:15,214F:81,2160:89,2170:91,2180:81,2183:D,2184:815,2185:81,218C:0,2190:81,2308:41,",
    "230C:81,2329:41,232B:81,2427:0,2440:81,244B:0,2460:A1,2469:81,2474:A1,247D:81,2488:A1,2491:81,",
    "249C:881,24B6:889,24D0:891,24EA:A1,24EB:81,24F5:A1,24FE:81,24FF:A1,2500:81,271D:881,2720:81,",
    "2768:41,2776:A1,277F:81,2780:A1,2789:81,278A:A1,2793:81,27C5:41,27C7:81,27E6:41,27F0:81,2983:41,",
    "2999:81,29D8:41,29DC:81,29E4:481,29E5:81,29FC:41,29FE:81,2A23:481,2A25:81,2A26:481,2A27:81,",
    "2A36:481,2A37:81,2A6F:481,2A70:81,2AF3:481,2AF4:81,2B74:0,2B76:81,2B96:0,2B97:81,2C00:D,",
    "2C2E:80D,2C2F:D,2C30:15,2C5E:815,2C5F:15,2C60:80D,2C61:815,2C62:80D,2C65:815,2C67:80D,2C68:815,",
    "2C69:80D,2C6A:815,2C6B:80D,2C6C:815,2C6D:80D,2C71:815,2C72:80D,2C73:815,2C75:80D,2C76:815,",
    "2C7D:15,2C7E:80D,2C80:D,2C81:15,2C82:D,2C83:15,2C84:D,2C85:15,2C86:D,2C87:15,2C88:D,2C89:15,",
    "2C8A:D,2C8B:15,2C8C:D,2C8D:15,2C8E:D,2C8F:15,2C90:D,2C91:15,2C92:D,2C93:15,2C94:D,2C95:15,",
    "2C96:D,2C97:15,2C98:D,2C99:15,2C9A:D,2C9B:15,2C9C:D,2C9D:15,2C9E:D,2C9F:15,2CA0:D,2CA1:15,",
    "2CA2:D,2CA3:15,2CA4:D,2CA5:15,2CA6:D,2CA7:15,2CA8:D,2CA9:15,2CAA:D,2CAB:15,2CAC:D,2CAD:15,",
    "2CAE:D,2CAF:15,2CB0:D,2CB1:15,2CB2:D,2CB3:15,2CB4:D,2CB5:15,2CB6:D,2CB7:15,2CB8:D,2CB9:15,",
    "2CBA:D,2CBB:15,2CBC:D,2CBD:15,2CBE:D,2CBF:15,2CC0:D,2CC1:15,2CC2:D,2CC3:15,2CC4:D,2CC5:15,",
    "2CC6:D,2CC7:15,2CC8:D,2CC9:15,2CCA:D,2CCB:15,2CCC:D,2CCD:15,2CCE:D,2CCF:15,2CD0:D,2CD1:15,",
    "2CD2:D,2CD3:15,2CD4:D,2CD5:15,2CD6:D,2CD7:15,2CD8:D,2CD9:15,2CDA:D,2CDB:15,2CDC:D,2CDD:15,",
    "2CDE:D,2CDF:15,2CE0:D,2CE1:15,2CE2:D,2CE3:15,2CE5:81,2CEB:D,2CEC:15,2CED:D,2CEE:15,2CEF:1,",
    "2CF2:D,2CF3:15,2CF4:0,2CF9:241,2CFD:81,2CFE:241,2D00:15,2D26:0,2D27:15,2D28:0,2D2D:15,2D2E:0,",
    "2D30:105,2D68:0,2D6F:5,2D70:241,2D71:0,2D7F:1,2D80:105,2D97:0,2DA0:105,2DA7:0,2DA8:105,2DAF:0,",
    "2DB0:105,2DB7:0,2DB8:105,2DBF:0,2DC0:105,2DC7:0,2DC8:105,2DCF:0,2DD0:105,2DD7:0,2DD8:105,2DDF:0,",
    "2DE0:1,2E00:241,2E02:41,2E06:241,2E09:41,2E0B:241,2E0C:41,2E0E:241,2E1A:641,2E1C:41,2E1E:241,",
    "2E20:41,2E2A:241,2E2F:5,2E30:241,2E42:41,2E43:241,2E50:81,2E52:241,2E55:41,2E5D:241,2E5E:0,",
    "2E80:1081,2E9A:0,2E9B:1081,2EF4:0,2F00:81,2FD6:0,2FF0:81,2FFC:0,3000:202,3001:241,3004:81,",
    "3005:5,3006:105,3007:81,3008:41,3012:81,3014:41,301C:241,301D:41,3020:81,302A:1,302E:2001,",
    "3030:241,3031:5,3036:81,303B:5,303C:105,303D:241,303E:81,3040:0,3041:8105,3097:0,3099:C001,",
    "309B:C081,309D:8005,309F:8105,30A0:C241,30A1:4105,30FB:4241,30FC:C005,30FD:4005,30FF:4105,",
    "3100:0,3105:105,3130:0,3131:2105,318F:0,3190:81,31A0:105,31C0:1081,31E4:0,31F0:4105,3200:2081,",
    "321D:81,321F:0,3220:81,3260:2081,327C:81,327E:2081,327F:81,32D0:4081,32FF:81,3400:1105,4DC0:81,",
    "4E00:1105,A000:105,A015:5,A016:105,A48D:0,A490:81,A4C7:0,A4D0:105,A4F8:5,A4FE:241,A500:105,",
    "A60C:5,A60D:241,A610:105,A620:A1,A62A:105,A62C:0,A640:D,A641:15,A642:D,A643:15,A644:D,A645:15,",
    "A646:D,A647:15,A648:D,A649:15,A64A:D,A64B:15,A64C:D,A64D:15,A64E:D,A64F:15,A650:D,A651:15,",
    "A652:D,A653:15,A654:D,A655:15,A656:D,A657:15,A658:D,A659:15,A65A:D,A65B:15,A65C:D,A65D:15,",
    "A65E:D,A65F:15,A660:D,A661:15,A662:D,A663:15,A664:D,A665:15,A666:D,A667:15,A668:D,A669:15,",
    "A66A:D,A66B:15,A66C:D,A66D:15,A66E:105,A66F:1,A673:241,A674:1,A67E:241,A67F:5,A680:D,A681:15,",
    "A682:D,A683:15,A684:D,A685:15,A686:D,A687:15,A688:D,A689:15,A68A:D,A68B:15,A68C:D,A68D:15,",
    "A68E:D,A68F:15,A690:D,A691:15,A692:D,A693:15,A694:D,A695:15,A696:D,A697:15,A698:D,A699:15,",
    "A69A:D,A69B:15,A69E:1,A6A0:105,A6E6:81,A6F0:1,A6F2:241,A6F8:0,A700:81,A717:5,A720:81,A722:80D,",
    "A723:815,A724:80D,A725:815,A726:80D,A727:815,A728:80D,A729:815,A72A:80D,A72B:815,A72C:80D,",
    "A72D:815,A72E:80D,A72F:815,A732:80D,A733:815,A734:80D,A735:815,A736:80D,A737:815,A738:80D,",
    "A739:815,A73A:80D,A73B:815,A73C:80D,A73D:815,A73E:80D,A73F:815,A740:80D,A741:815,A742:80D,",
    "A743:815,A744:80D,A745:815,A746:80D,A747:815,A748:80D,A749:815,A74A:80D,A74B:815,A74C:80D,",
    "A74D:815,A74E:80D,A74F:815,A750:80D,A751:815,A752:80D,A753:815,A754:80D,A755:815,A756:80D,",
    "A757:815,A758:80D,A759:815,A75A:80D,A75B:815,A75C:80D,A75D:815,A75E:80D,A75F:815,A760:80D,",
    "A761:815,A762:80D,A763:815,A764:80D,A765:815,A766:80D,A767:815,A768:80D,A769:815,A76A:80D,",
    "A76B:815,A76C:80D,A76D:815,A76E:80D,A76F:815,A770:15,A771:815,A779:80D,A77A:815,A77B:80D,",
    "A77C:815,A77D:80D,A77F:815,A780:80D,A781:815,A782:80D,A783:815,A784:80D,A785:815,A786:80D,",
    "A787:815,A788:5,A789:81,A78B:80D,A78C:815,A78D:80D,A78E:815,A78F:905,A790:80D,A791:815,A792:80D,",
    "A793:815,A796:80D,A797:815,A798:80D,A799:815,A79A:80D,A79B:815,A79C:80D,A79D:815,A79E:80D,",
    "A79F:815,A7A0:80D,A7A1:815,A7A2:80D,A7A3:815,A7A4:80D,A7A5:815,A7A6:80D,A7A7:815,A7A8:80D,",
    "A7A9:815,A7AA:80D,A7AF:815,A7B0:80D,A7B5:815,A7B6:80D,A7B7:815,A7B8:80D,A7B9:815,A7BA:80D,",
    "A7BB:815,A7BC:80D,A7BD:815,A7BE:80D,A7BF:815,A7C0:80D,A7C1:815,A7C2:80D,A7C3:815,A7C4:80D,",
    "A7C8:815,A7C9:80D,A7CA:815,A7CB:0,A7D0:80D,A7D1:815,A7D2:0,A7D3:815,A7D4:0,A7D5:815,A7D6:80D,",
    "A7D7:815,A7D8:80D,A7D9:815,A7DA:0,A7F2:5,A7F5:80D,A7F6:815,A7F7:905,A7F8:15,A7FA:815,A7FB:905,",
    "A800:105,A802:1,A803:105,A806:1,A807:105,A80B:1,A80C:105,A823:1,A828:81,A82C:1,A82D:0,A830:81,",
    "A83A:0,A840:105,A874:241,A878:0,A880:1,A882:105,A8B4:1,A8C6:0,A8CE:241,A8D0:A1,A8DA:0,A8E0:1,",
    "A8F2:105,A8F8:241,A8FB:105,A8FC:241,A8FD:105,A8FF:1,A900:A1,A90A:105,A926:1,A92E:241,A930:105,",
    "A947:1,A954:0,A95F:241,A960:2105,A97D:0,A980:1,A984:105,A9B3:1,A9C1:241,A9CE:0,A9CF:5,A9D0:A1,",
    "A9DA:0,A9DE:241,A9E0:105,A9E5:1,A9E6:5,A9E7:105,A9F0:A1,A9FA:105,A9FF:0,AA00:105,AA29:1,AA37:0,",
    "AA40:105,AA43:1,AA44:105,AA4C:1,AA4E:0,AA50:A1,AA5A:0,AA5C:241,AA60:105,AA70:5,AA71:105,AA77:81,",
    "AA7A:105,AA7B:1,AA7E:105,AAB0:1,AAB1:105,AAB2:1,AAB5:105,AAB7:1,AAB9:105,AABE:1,AAC0:105,AAC1:1,",
    "AAC2:105,AAC3:0,AADB:105,AADD:5,AADE:241,AAE0:105,AAEB:1,AAF0:241,AAF2:105,AAF3:5,AAF5:1,AAF7:0,",
    "AB01:105,AB07:0,AB09:105,AB0F:0,AB11:105,AB17:0,AB20:105,AB27:0,AB28:105,AB2F:0,AB30:815,",
    "AB5B:81,AB5C:15,AB60:815,AB65:15,AB66:815,AB69:5,AB6A:81,AB6C:0,AB70:15,ABC0:105,ABE3:1,",
    "ABEB:241,ABEC:1,ABEE:0,ABF0:A1,ABFA:0,AC00:2105,D7A4:0,D7B0:2105,D7C7:0,D7CB:2105,D7FC:0,",
    "F900:1105,FA6E:0,FA70:1105,FADA:0,FB00:815,FB07:0,FB13:15,FB18:0,FB1D:105,FB1E:1,FB1F:105,",
    "FB29:81,FB2A:105,FB37:0,FB38:105,FB3D:0,FB3E:105,FB3F:0,FB40:105,FB42:0,FB43:105,FB45:0,",
    "FB46:105,FB50:60105,FB51:20105,FB52:60105,FB53:20105,FB56:60105,FB57:20105,FB5A:60105,",
    "FB5B:20105,FB5E:60105,FB5F:20105,FB62:60105,FB63:20105,FB66:60105,FB67:20105,FB6A:60105,",
    "FB6B:20105,FB6E:60105,FB6F:20105,FB72:60105,FB73:20105,FB76:60105,FB77:20105,FB7A:60105,",
    "FB7B:20105,FB7E:60105,FB7F:20105,FB82:60105,FB83:20105,FB84:60105,FB85:20105,FB86:60105,",
    "FB87:20105,FB88:60105,FB89:20105,FB8A:60105,FB8B:20105,FB8C:60105,FB8D:20105,FB8E:60105,",
    "FB8F:20105,FB92:60105,FB93:20105,FB96:60105,FB97:20105,FB9A:60105,FB9B:20105,FB9E:60105,",
    "FB9F:20105,FBA0:60105,FBA1:20105,FBA4:60105,FBA5:20105,FBA6:60105,FBA7:20105,FBAA:60105,",
    "FBAB:20105,FBAE:60105,FBAF:20105,FBB0:60105,FBB1:20105,FBB2:20081,FBC3:0,FBD3:60105,FBD4:20105,",
    "FBD7:60105,FBD8:20105,FBD9:60105,FBDA:20105,FBDB:60105,FBDC:20105,FBDD:60105,FBDF:20105,",
    "FBE0:60105,FBE1:20105,FBE2:60105,FBE3:20105,FBE4:60105,FBE5:20105,FBEA:60105,FBEB:20105,",
    "FBEC:60105,FBED:20105,FBEE:60105,FBEF:20105,FBF0:60105,FBF1:20105,FBF2:60105,FBF3:20105,",
    "FBF4:60105,FBF5:20105,FBF6:60105,FBF7:20105,FBF9:60105,FBFA:20105,FBFC:60105,FBFD:20105,",
    "FC00:60105,FC64:20105,FCF5:60105,FD11:20105,FD3D:60105,FD3E:41,FD40:20081,FD50:20105,FD90:0,",
    "FD92:20105,FDC8:0,FDCF:20081,FDD0:0,FDF0:60105,FDFA:20105,FDFC:81,FDFD:20081,FE00:1,FE10:241,",
    "FE17:41,FE19:241,FE1A:0,FE20:1,FE30:241,FE35:41,FE45:241,FE47:41,FE49:241,FE53:0,FE54:241,",
    "FE59:41,FE5F:241,FE62:81,FE63:241,FE64:81,FE67:0,FE68:241,FE69:81,FE6A:241,FE6C:0,FE70:60105,",
    "FE71:20105,FE72:60105,FE73:20105,FE74:60105,FE75:0,FE76:60105,FE77:20105,FE78:60105,FE79:20105,",
    "FE7A:60105,FE7B:20105,FE7C:60105,FE7D:20105,FE7E:60105,FE7F:20105,FE80:60105,FE82:20105,",
    "FE83:60105,FE84:20105,FE85:60105,FE86:20105,FE87:60105,FE88:20105,FE89:60105,FE8A:20105,",
    "FE8D:60105,FE8E:20105,FE8F:60105,FE90:20105,FE93:60105,FE94:20105,FE95:60105,FE96:20105,",
    "FE99:60105,FE9A:20105,FE9D:60105,FE9E:20105,FEA1:60105,FEA2:20105,FEA5:60105,FEA6:20105,",
    "FEA9:60105,FEAA:20105,FEAB:60105,FEAC:20105,FEAD:60105,FEAE:20105,FEAF:60105,FEB0:20105,",
    "FEB1:60105,FEB2:20105,FEB5:60105,FEB6:20105,FEB9:60105,FEBA:20105,FEBD:60105,FEBE:20105,",
    "FEC1:60105,FEC2:20105,FEC5:60105,FEC6:20105,FEC9:60105,FECA:20105,FECD:60105,FECE:20105,",
    "FED1:60105,FED2:20105,FED5:60105,FED6:20105,FED9:60105,FEDA:20105,FEDD:60105,FEDE:20105,",
    "FEE1:60105,FEE2:20105,FEE5:60105,FEE6:20105,FEE9:60105,FEEA:20105,FEED:60105,FEEE:20105,",
    "FEEF:60105,FEF0:20105,FEF1:60105,FEF2:20105,FEF5:60105,FEF6:20105,FEF7:60105,FEF8:20105,",
    "FEF9:60105,FEFA:20105,FEFB:60105,FEFC:20105,FEFD:0,FF01:241,FF04:81,FF05:241,FF08:41,FF0A:241,",
    "FF0B:81,FF0C:241,FF10:A1,FF1A:241,FF1C:81,FF1F:241,FF21:80D,FF3B:41,FF3C:241,FF3D:41,FF3E:81,",
    "FF3F:241,FF40:81,FF41:815,FF5B:41,FF5C:81,FF5D:41,FF5E:81,FF5F:41,FF61:241,FF62:41,FF64:241,",
    "FF65:4241,FF66:4105,FF70:C005,FF71:4105,FF9E:4005,FFA0:2105,FFBF:0,FFC2:2105,FFC8:0,FFCA:2105,",
    "FFD0:0,FFD2:2105,FFD8:0,FFDA:2105,FFDD:0,FFE0:81,FFE7:0,FFE8:81,FFEF:0,FFFC:81,FFFE:0,10000:105,",
    "1000C:0,1000D:105,10027:0,10028:105,1003B:0,1003C:105,1003E:0,1003F:105,1004E:0,10050:105,",
    "1005E:0,10080:105,100FB:0,10100:241,10103:0,10107:81,10134:0,10137:81,1018F:0,10190:81,1019D:0,",
    "101A0:81,101A1:0,101D0:81,101FD:1,101FE:0,10280:105,1029D:0,102A0:105,102D1:0,102E0:1,102E1:81,",
    "102FC:0,10300:105,10320:81,10324:0,1032D:105,10341:81,10342:105,1034A:81,1034B:0,10350:105,",
    "10376:1,1037B:0,10380:105,1039E:0,1039F:241,103A0:105,103C4:0,103C8:105,103D0:241,103D1:81,",
    "103D6:0,10400:D,10428:15,10450:105,1049E:0,104A0:A1,104AA:0,104B0:D,104D4:0,104D8:15,104FC:0,",
    "10500:105,10528:0,10530:105,10564:0,1056F:241,10570:D,1057B:0,1057C:D,1058B:0,1058C:D,10593:0,",
    "10594:D,10596:0,10597:15,105A2:0,105A3:15,105B2:0,105B3:15,105BA:0,105BB:15,105BD:0,10600:105,",
    "10737:0,10740:105,10756:0,10760:105,10768:0,10780:15,10781:5,10783:15,10786:0,10787:15,107B1:0,",
    "107B2:15,107BB:0,10800:105,10806:0,10808:105,10809:0,1080A:105,10836:0,10837:105,10839:0,",
    "1083C:105,1083D:0,1083F:105,10856:0,10857:241,10858:81,10860:105,10877:81,10880:105,1089F:0,",
    "108A7:81,108B0:0,108E0:105,108F3:0,108F4:105,108F6:0,108FB:81,10900:105,10916:81,1091C:0,",
    "1091F:241,10920:105,1093A:0,1093F:241,10940:0,10980:105,109B8:0,109BC:81,109BE:105,109C0:81,",
    "109D0:0,109D2:81,10A00:105,10A01:1,10A04:0,10A05:1,10A07:0,10A0C:1,10A10:105,10A14:0,10A15:105,",
    "10A18:0,10A19:105,10A36:0,10A38:1,10A3B:0,10A3F:1,10A40:A1,10A44:81,10A49:0,10A50:241,10A59:0,",
    "10A60:105,10A7D:81,10A7F:241,10A80:105,10A9D:81,10AA0:0,10AC0:105,10AC8:81,10AC9:105,10AE5:1,",
    "10AE7:0,10AEB:81,10AF0:241,10AF7:0,10B00:105,10B36:0,10B39:241,10B40:105,10B56:0,10B58:81,",
    "10B60:105,10B73:0,10B78:81,10B80:105,10B92:0,10B99:241,10B9D:0,10BA9:81,10BB0:0,10C00:105,",
    "10C49:0,10C80:D,10CB3:0,10CC0:15,10CF3:0,10CFA:81,10D00:105,10D24:1,10D28:0,10D30:A1,10D3A:0,",
    "10E60:A1,10E69:81,10E7F:0,10E80:105,10EAA:0,10EAB:1,10EAD:241,10EAE:0,10EB0:105,10EB1:505,",
    "10EB2:0,10F00:105,10F1D:81,10F27:105,10F28:0,10F30:105,10F46:1,10F51:81,10F55:241,10F5A:0,",
    "10F70:105,10F82:1,10F86:241,10F8A:0,10FB0:105,10FC5:81,10FCC:0,10FE0:105,10FF7:0,11000:1,",
    "11003:105,11038:1,11047:241,1104E:0,11052:A1,1105B:81,11066:A1,11070:1,11071:105,11073:1,",
    "11075:105,11076:0,1107F:1,11083:105,110B0:1,110BB:241,110BD:0,110BE:241,110C2:1,110C3:0,",
    "110D0:105,110E9:0,110F0:A1,110FA:0,11100:1,11103:105,11127:1,11135:0,11136:A1,11140:241,",
    "11144:105,11145:1,11147:105,11148:0,11150:105,11173:1,11174:241,11176:105,11177:0,11180:1,",
    "11183:105,111B3:1,111C1:105,111C5:241,111C9:1,111CD:241,111CE:1,111D0:A1,111DA:105,111DB:241,",
    "111DC:105,111DD:241,111E0:0,111E1:81,111F5:0,11200:105,11212:0,11213:105,1122C:1,11238:241,",
    "1123E:1,1123F:0,11280:105,11287:0,11288:105,11289:0,1128A:105,1128E:0,1128F:105,1129E:0,",
    "1129F:105,112A9:241,112AA:0,112B0:105,112DF:1,112EB:0,112F0:A1,112FA:0,11300:1,11304:0,",
    "11305:105,1130D:0,1130F:105,11311:0,11313:105,11329:0,1132A:105,11331:0,11332:105,11334:0,",
    "11335:105,1133A:0,1133B:1,1133D:105,1133E:1,11345:0,11347:1,11349:0,1134B:1,1134E:0,11350:105,",
    "11351:0,11357:1,11358:0,1135D:105,11362:1,11364:0,11366:1,1136D:0,11370:1,11375:0,11400:105,",
    "11435:1,11447:105,1144B:241,11450:A1,1145A:241,1145C:0,1145D:241,1145E:1,1145F:105,11462:0,",
    "11480:105,114B0:1,114C4:105,114C6:241,114C7:105,114C8:0,114D0:A1,114DA:0,11580:105,115AF:1,",
    "115B6:0,115B8:1,115C1:241,115D8:105,115DC:1,115DE:0,11600:105,11630:1,11641:241,11644:105,",
    "11645:0,11650:A1,1165A:0,11660:241,1166D:0,11680:105,116AB:1,116B8:105,116B9:241,116BA:0,",
    "116C0:A1,116CA:0,11700:105,1171B:0,1171D:1,1172C:0,11730:A1,1173A:81,1173C:241,1173F:81,",
    "11740:105,11747:0,11800:105,1182C:1,1183B:241,1183C:0,118A0:D,118C0:15,118E0:A1,118EA:81,",
    "118F3:0,118FF:105,11907:0,11909:105,1190A:0,1190C:105,11914:0,11915:105,11917:0,11918:105,",
    "11930:1,11936:0,11937:1,11939:0,1193B:1,1193F:105,11940:1,11941:105,11942:1,11944:241,11947:0,",
    "11950:A1,1195A:0,119A0:105,119A8:0,119AA:105,119D1:1,119D8:0,119DA:1,119E1:105,119E2:241,",
    "119E3:105,119E4:1,119E5:0,11A00:105,11A01:1,11A0B:105,11A33:1,11A3A:105,11A3B:1,11A3F:241,",
    "11A47:1,11A48:0,11A50:105,11A51:1,11A5C:105,11A8A:1,11A9A:241,11A9D:105,11A9E:241,11AA3:0,",
    "11AB0:105,11AF9:0,11C00:105,11C09:0,11C0A:105,11C2F:1,11C37:0,11C38:1,11C40:105,11C41:241,",
    "11C46:0,11C50:A1,11C5A:81,11C6D:0,11C70:241,11C72:105,11C90:0,11C92:1,11CA8:0,11CA9:1,11CB7:0,",
    "11D00:105,11D07:0,11D08:105,11D0A:0,11D0B:105,11D31:1,11D37:0,11D3A:1,11D3B:0,11D3C:1,11D3E:0,",
    "11D3F:1,11D46:105,11D47:1,11D48:0,11D50:A1,11D5A:0,11D60:105,11D66:0,11D67:105,11D69:0,",
    "11D6A:105,11D8A:1,11D8F:0,11D90:1,11D92:0,11D93:1,11D98:105,11D99:0,11DA0:A1,11DAA:0,11EE0:105,",
    "11EF3:1,11EF7:241,11EF9:0,11FB0:105,11FB1:0,11FC0:81,11FF2:0,11FFF:241,12000:105,1239A:0,",
    "12400:81,1246F:0,12470:241,12475:0,12480:105,12544:0,12F90:105,12FF1:241,12FF3:0,13000:105,",
    "1342F:0,14400:105,14647:0,16800:105,16A39:0,16A40:105,16A5F:0,16A60:A1,16A6A:0,16A6E:241,",
    "16A70:105,16ABF:0,16AC0:A1,16ACA:0,16AD0:105,16AEE:0,16AF0:1,16AF5:241,16AF6:0,16B00:105,",
    "16B30:1,16B37:241,16B3C:81,16B40:5,16B44:241,16B45:81,16B46:0,16B50:A1,16B5A:0,16B5B:81,16B62:0,",
    "16B63:105,16B78:0,16B7D:105,16B90:0,16E40:D,16E60:15,16E80:81,16E97:241,16E9B:0,16F00:105,",
    "16F4B:0,16F4F:1,16F50:105,16F51:1,16F88:0,16F8F:1,16F93:5,16FA0:0,16FE0:5,16FE2:241,16FE3:5,",
    "16FE4:1,16FE5:0,16FF0:1,16FF2:0,17000:105,187F8:0,18800:105,18CD6:0,18D00:105,18D09:0,",
    "1AFF0:4005,1AFF4:0,1AFF5:4005,1AFFC:0,1AFFD:4005,1AFFF:0,1B000:4105,1B001:8105,1B002:105,",
    "1B11F:8105,1B120:4105,1B123:0,1B150:8105,1B153:0,1B164:4105,1B168:0,1B170:105,1B2FC:0,1BC00:105,",
    "1BC6B:0,1BC70:105,1BC7D:0,1BC80:105,1BC89:0,1BC90:105,1BC9A:0,1BC9C:81,1BC9D:1,1BC9F:241,",
    "1BCA0:0,1CF00:1,1CF2E:0,1CF30:1,1CF47:0,1CF50:81,1CFC4:0,1D000:81,1D0F6:0,1D100:81,1D127:0,",
    "1D129:81,1D165:1,1D16A:81,1D16D:1,1D173:0,1D17B:1,1D183:81,1D185:1,1D18C:81,1D1AA:1,1D1AE:81,",
    "1D1EB:0,1D200:81,1D242:1,1D245:81,1D246:0,1D2E0:81,1D2F4:0,1D300:81,1D357:0,1D360:81,1D379:0,",
    "1D400:D,1D41A:15,1D434:D,1D44E:15,1D455:0,1D456:15,1D468:D,1D482:15,1D49C:D,1D49D:0,1D49E:D,",
    "1D4A0:0,1D4A2:D,1D4A3:0,1D4A5:D,1D4A7:0,1D4A9:D,1D4AD:0,1D4AE:D,1D4B6:15,1D4BA:0,1D4BB:15,",
    "1D4BC:0,1D4BD:15,1D4C4:0,1D4C5:15,1D4D0:D,1D4EA:15,1D504:D,1D506:0,1D507:D,1D50B:0,1D50D:D,",
    "1D515:0,1D516:D,1D51D:0,1D51E:15,1D538:D,1D53A:0,1D53B:D,1D53F:0,1D540:D,1D545:0,1D546:D,",
    "1D547:0,1D54A:D,1D551:0,1D552:15,1D56C:D,1D586:15,1D5A0:D,1D5BA:15,1D5D4:D,1D5EE:15,1D608:D,",
    "1D622:15,1D63C:D,1D656:15,1D670:D,1D68A:15,1D6A6:0,1D6A8:D,1D6C1:81,1D6C2:15,1D6DB:81,1D6DC:15,",
    "1D6E2:D,1D6FB:81,1D6FC:15,1D715:81,1D716:15,1D71C:D,1D735:81,1D736:15,1D74F:81,1D750:15,1D756:D,",
    "1D76F:81,1D770:15,1D789:81,1D78A:15,1D790:D,1D7A9:81,1D7AA:15,1D7C3:81,1D7C4:15,1D7CA:D,",
    "1D7CB:15,1D7CC:0,1D7CE:A1,1D800:81,1DA00:1,1DA37:81,1DA3B:1,1DA6D:81,1DA75:1,1DA76:81,1DA84:1,",
    "1DA85:81,1DA87:241,1DA8C:0,1DA9B:1,1DAA0:0,1DAA1:1,1DAB0:0,1DF00:815,1DF0A:905,1DF0B:815,",
    "1DF1F:0,1E000:1,1E007:0,1E008:1,1E019:0,1E01B:1,1E022:0,1E023:1,1E025:0,1E026:1,1E02B:0,",
    "1E100:105,1E12D:0,1E130:1,1E137:5,1E13E:0,1E140:A1,1E14A:0,1E14E:105,1E14F:81,1E150:0,1E290:105,",
    "1E2AE:1,1E2AF:0,1E2C0:105,1E2EC:1,1E2F0:A1,1E2FA:0,1E2FF:81,1E300:0,1E7E0:105,1E7E7:0,1E7E8:105,",
    "1E7EC:0,1E7ED:105,1E7EF:0,1E7F0:105,1E7FF:0,1E800:105,1E8C5:0,1E8C7:81,1E8D0:1,1E8D7:0,1E900:D,",
    "1E922:15,1E944:1,1E94B:5,1E94C:0,1E950:A1,1E95A:0,1E95E:241,1E960:0,1EC71:81,1ECB5:0,1ED01:81,",
    "1ED3E:0,1EE00:20105,1EE04:0,1EE05:20105,1EE20:0,1EE21:20105,1EE23:0,1EE24:20105,1EE25:0,",
    "1EE27:20105,1EE28:0,1EE29:20105,1EE33:0,1EE34:20105,1EE38:0,1EE39:20105,1EE3A:0,1EE3B:20105,",
    "1EE3C:0,1EE42:20105,1EE43:0,1EE47:20105,1EE48:0,1EE49:20105,1EE4A:0,1EE4B:20105,1EE4C:0,",
    "1EE4D:20105,1EE50:0,1EE51:20105,1EE53:0,1EE54:20105,1EE55:0,1EE57:20105,1EE58:0,1EE59:20105,",
    "1EE5A:0,1EE5B:20105,1EE5C:0,1EE5D:20105,1EE5E:0,1EE5F:20105,1EE60:0,1EE61:20105,1EE63:0,",
    "1EE64:20105,1EE65:0,1EE67:20105,1EE6B:0,1EE6C:20105,1EE73:0,1EE74:20105,1EE78:0,1EE79:20105,",
    "1EE7D:0,1EE7E:20105,1EE7F:0,1EE80:20105,1EE8A:0,1EE8B:20105,1EE9C:0,1EEA1:20105,1EEA4:0,",
    "1EEA5:20105,1EEAA:0,1EEAB:20105,1EEBC:0,1EEF0:20081,1EEF2:0,1F000:81,1F02C:0,1F030:81,1F094:0,",
    "1F0A0:81,1F0AF:0,1F0B1:81,1F0C0:0,1F0C1:81,1F0D0:0,1F0D1:81,1F0F6:0,1F100:A1,1F10B:81,1F110:881,",
    "1F12D:81,1F130:889,1F14A:81,1F150:889,1F16A:81,1F170:889,1F18A:881,1F18B:81,1F1A5:881,1F1A6:81,",
    "1F1AE:0,1F1E6:81,1F200:8081,1F201:4081,1F203:0,1F210:1081,1F213:4081,1F214:1081,1F23C:0,",
    "1F240:1081,1F249:0,1F250:81,1F252:0,1F260:81,1F266:0,1F300:81,1F520:881,1F522:81,1F524:881,",
    "1F525:81,1F546:881,1F548:81,1F6D8:0,1F6DD:81,1F6ED:0,1F6F0:81,1F6FD:0,1F700:81,1F774:0,1F780:81,",
    "1F7D9:0,1F7E0:81,1F7EC:0,1F7F0:81,1F7F1:0,1F800:81,1F80C:0,1F810:81,1F848:0,1F850:81,1F85A:0,",
    "1F860:81,1F888:0,1F890:81,1F8AE:0,1F8B0:81,1F8B2:0,1F900:81,1FA54:0,1FA60:81,1FA6E:0,1FA70:81,",
    "1FA75:0,1FA78:81,1FA7D:0,1FA80:81,1FA87:0,1FA90:81,1FAAD:0,1FAB0:81,1FABB:0,1FAC0:81,1FAC6:0,",
    "1FAD0:81,1FADA:0,1FAE0:81,1FAE8:0,1FAF0:81,1FAF7:0,1FB00:81,1FB93:0,1FB94:81,1FBCB:0,1FBF0:A1,",
    "1FBFA:0,20000:1105,2A6E0:0,2A700:1105,2B739:0,2B740:1105,2B81E:0,2B820:1105,2CEA2:0,2CEB0:1105,",
    "2EBE1:0,2F800:1105,2FA1E:0,30000:1105,3134B:0,E0041:800,E005B:0,E0061:800,E007B:0,E0100:1,",
    "E01F0:0,"]

/-- The accented Latin letters, each with the first character of its decomposition. -/
def accentBaseTable : CodeMap := CodeMap.parse <| String.join [
    "C0:0041,C1:0041,C2:0041,C3:0041,C4:0041,C5:0041,C7:0043,C8:0045,C9:0045,CA:0045,CB:0045,CC:0049,",
    "CD:0049,CE:0049,CF:0049,D1:004E,D2:004F,D3:004F,D4:004F,D5:004F,D6:004F,D9:0055,DA:0055,DB:0055,",
    "DC:0055,DD:0059,E0:0061,E1:0061,E2:0061,E3:0061,E4:0061,E5:0061,E7:0063,E8:0065,E9:0065,EA:0065,",
    "EB:0065,EC:0069,ED:0069,EE:0069,EF:0069,F1:006E,F2:006F,F3:006F,F4:006F,F5:006F,F6:006F,F9:0075,",
    "FA:0075,FB:0075,FC:0075,FD:0079,FF:0079,100:0041,101:0061,106:0043,107:0063,108:0043,109:0063,",
    "112:0045,113:0065,11C:0047,11D:0067,122:0047,123:0067,124:0048,125:0068,128:0049,129:0069,",
    "12A:0049,12B:0069,134:004A,135:006A,136:004B,137:006B,139:004C,13A:006C,13B:004C,13C:006C,",
    "143:004E,144:006E,145:004E,146:006E,14C:004F,14D:006F,154:0052,155:0072,156:0052,157:0072,",
    "15A:0053,15B:0073,15C:0053,15D:0073,15E:0053,15F:0073,162:0054,163:0074,168:0055,169:0075,",
    "16A:0055,16B:0075,16E:0055,16F:0075,174:0057,175:0077,176:0059,177:0079,178:0059,179:005A,",
    "17A:007A,1D5:00DC,1D6:00FC,1D7:00DC,1D8:00FC,1D9:00DC,1DA:00FC,1DB:00DC,1DC:00FC,1DE:00C4,",
    "1DF:00E4,1E2:00C6,1E3:00E6,1F4:0047,1F5:0067,1F8:004E,1F9:006E,1FA:00C5,1FB:00E5,1FC:00C6,",
    "1FD:00E6,228:0045,229:0065,22A:00D6,22B:00F6,22C:00D5,22D:00F5,232:0059,233:0079,1E08:00C7,",
    "1E09:00E7,1E10:0044,1E11:0064,1E12:0044,1E13:0064,1E14:0112,1E15:0113,1E16:0112,1E17:0113,",
    "1E18:0045,1E19:0065,1E1A:0045,1E1B:0065,1E1C:0228,1E1D:0229,1E20:0047,1E21:0067,1E26:0048,",
    "1E27:0068,1E28:0048,1E29:0068,1E2C:0049,1E2D:0069,1E2E:00CF,1E2F:00EF,1E30:004B,1E31:006B,",
    "1E3C:004C,1E3D:006C,1E3E:004D,1E3F:006D,1E4A:004E,1E4B:006E,1E4C:00D5,1E4D:00F5,1E4E:00D5,",
    "1E4F:00F5,1E50:014C,1E51:014D,1E52:014C,1E53:014D,1E54:0050,1E55:0070,1E64:015A,1E65:015B,",
    "1E70:0054,1E71:0074,1E72:0055,1E73:0075,1E74:0055,1E75:0075,1E76:0055,1E77:0075,1E78:0168,",
    "1E79:0169,1E7A:016A,1E7B:016B,1E7C:0056,1E7D:0076,1E80:0057,1E81:0077,1E82:0057,1E83:0077,",
    "1E84:0057,1E85:0077,1E8C:0058,1E8D:0078,1E90:005A,1E91:007A,1E97:0074,1E98:0077,1E99:0079,",
    "1EA4:00C2,1EA5:00E2,1EA6:00C2,1EA7:00E2,1EA8:00C2,1EA9:00E2,1EAA:00C2,1EAB:00E2,1EAC:1EA0,",
    "1EAD:1EA1,1EBC:0045,1EBD:0065,1EBE:00CA,1EBF:00EA,1EC0:00CA,1EC1:00EA,1EC2:00CA,1EC3:00EA,",
    "1EC4:00CA,1EC5:00EA,1EC6:1EB8,1EC7:1EB9,1ED0:00D4,1ED1:00F4,1ED2:00D4,1ED3:00F4,1ED4:00D4,",
    "1ED5:00F4,1ED6:00D4,1ED7:00F4,1ED8:1ECC,1ED9:1ECD,1EF2:0059,1EF3:0079,1EF8:0059,1EF9:0079,"]

def hasTrait (c : Char) (t : Trait) : Bool := (traitTable.lookup c.toNat >>> t.bit) % 2 == 1

/-- The character without its accent: the first character of the decomposition of an accented
Latin letter, and the character itself otherwise. -/
def withoutAccent (c : Char) : Char :=
  match accentBaseTable.find? c.toNat with
  | some (n :: _) => Char.ofNat n
  | _ => c

end SuggestGateway
