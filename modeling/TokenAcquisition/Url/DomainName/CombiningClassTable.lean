/-!
Combining classes in hexadecimal digits.  The value of an entry holds up to the next one;
characters that no domain name has are left out.
-/

namespace TokenAcquisition.Url.DomainName

def combiningClassTable : String :=
  "
    0=0 300=E6 315=E8 316=DC 31A=E8 31B=D8 31C=DC 321=CA 323=DC 327=CA 329=DC 334=1 339=DC
    33D=E6 347=DC 34A=E6 34D=DC 350=E6 353=DC 357=E6 358=E8 359=DC 35B=E6 35C=E9 35D=EA 35F=E9
    360=EA 362=E9 363=E6 371=0 483=E6 488=0 591=DC 592=E6 596=DC 597=E6 59A=DE 59B=DC 59C=E6
    5A2=DC 5A8=E6 5AA=DC 5AB=E6 5AD=DE 5AE=E4 5AF=E6 5B0=A 5B1=B 5B2=C 5B3=D 5B4=E 5B5=F 5B6=10
    5B7=11 5B8=12 5B9=13 5BB=14 5BC=15 5BD=16 5BE=0 5BF=17 5C0=0 5C1=18 5C2=19 5C3=0 5C4=E6
    5C5=DC 5C6=0 5C7=12 5D0=0 610=E6 618=1E 619=1F 61A=20 61B=0 64B=1B 64C=1C 64D=1D 64E=1E
    64F=1F 650=20 651=21 652=22 653=E6 655=DC 657=E6 65C=DC 65D=E6 65F=DC 660=0 670=23 671=0
    6D6=E6 6DE=0 6DF=E6 6E3=DC 6E4=E6 6E5=0 6E7=E6 6E9=0 6EA=DC 6EB=E6 6ED=DC 6EE=0 711=24 712=0
    730=E6 731=DC 732=E6 734=DC 735=E6 737=DC 73A=E6 73B=DC 73D=E6 73E=DC 73F=E6 742=DC 743=E6
    744=DC 745=E6 746=DC 747=E6 748=DC 749=E6 74D=0 7EB=E6 7F2=DC 7F3=E6 7F4=0 7FD=DC 7FE=0
    816=E6 81A=0 81B=E6 824=0 825=E6 828=0 829=E6 830=0 859=DC 85E=0 897=E6 899=DC 89C=E6 8A0=0
    8CA=E6 8CF=DC 8D4=E6 8E3=DC 8E4=E6 8E6=DC 8E7=E6 8E9=DC 8EA=E6 8ED=DC 8F0=1B 8F1=1C 8F2=1D
    8F3=E6 8F6=DC 8F7=E6 8F9=DC 8FB=E6 900=0 93C=7 93D=0 94D=9 94E=0 951=E6 952=DC 953=E6 955=0
    9BC=7 9BD=0 9CD=9 9CE=0 9FE=E6 A01=0 A3C=7 A3E=0 A4D=9 A51=0 ABC=7 ABD=0 ACD=9 AD0=0 B3C=7
    B3D=0 B4D=9 B55=0 BCD=9 BD0=0 C3C=7 C3D=0 C4D=9 C55=54 C56=5B C58=0 CBC=7 CBD=0 CCD=9 CD5=0
    D3B=9 D3D=0 D4D=9 D4E=0 DCA=9 DCF=0 E38=67 E3A=9 E3F=0 E48=6B E4C=0 EB8=76 EBA=9 EBB=0
    EC8=7A ECC=0 F18=DC F1A=0 F35=DC F36=0 F37=DC F38=0 F39=D8 F3A=0 F71=81 F72=82 F74=84 F7A=82
    F7E=0 F80=82 F82=E6 F84=9 F85=0 F86=E6 F88=0 FC6=DC FC7=0 1037=7 1038=0 1039=9 103B=0
    108D=DC 108E=0 135D=E6 1360=0 1714=9 171F=0 1734=9 1735=0 17D2=9 17D3=0 17DD=E6 17E0=0
    18A9=E4 18AA=0 1939=DE 193A=E6 193B=DC 1940=0 1A17=E6 1A18=DC 1A19=0 1A60=9 1A61=0 1A75=E6
    1A7F=DC 1A80=0 1AB0=E6 1AB5=DC 1ABB=E6 1ABD=DC 1ABE=0 1ABF=DC 1AC1=E6 1AC3=DC 1AC5=E6
    1ACA=DC 1ACB=E6 1ADD=DC 1AE0=E6 1AE6=DC 1AE7=E6 1AEB=EA 1B00=0 1B34=7 1B35=0 1B44=9 1B45=0
    1B6B=E6 1B6C=DC 1B6D=E6 1B74=0 1BAA=9 1BAC=0 1BE6=7 1BE7=0 1BF2=9 1BFC=0 1C37=7 1C3B=0
    1CD0=E6 1CD3=0 1CD4=1 1CD5=DC 1CDA=E6 1CDC=DC 1CE0=E6 1CE1=0 1CE2=1 1CE9=0 1CED=DC 1CEE=0
    1CF4=E6 1CF5=0 1CF8=E6 1CFA=0 1DC0=E6 1DC2=DC 1DC3=E6 1DCA=DC 1DCB=E6 1DCD=EA 1DCE=D6
    1DCF=DC 1DD0=CA 1DD1=E6 1DF6=E8 1DF7=E4 1DF9=DC 1DFA=DA 1DFB=E6 1DFC=E9 1DFD=DC 1DFE=E6
    1DFF=DC 1E01=0 20D0=E6 20D2=1 20D4=E6 20D8=1 20DB=E6 20DD=0 20E1=E6 20E2=0 20E5=1 20E7=E6
    20E8=DC 20E9=E6 20EA=1 20EC=DC 20F0=E6 2104=0 2CEF=E6 2CF3=0 2D7F=9 2D80=0 2DE0=E6 2E00=0
    302A=DA 302B=E4 302C=E8 302D=DE 302E=E0 3030=0 3099=8 309D=0 A66F=E6 A670=0 A674=E6 A67E=0
    A69E=E6 A6A0=0 A6F0=E6 A6F2=0 A806=9 A807=0 A82C=9 A830=0 A8C4=9 A8C5=0 A8E0=E6 A8F2=0
    A92B=DC A92E=0 A953=9 A95F=0 A9B3=7 A9B4=0 A9C0=9 A9C1=0 AAB0=E6 AAB1=0 AAB2=E6 AAB4=DC
    AAB5=0 AAB7=E6 AAB9=0 AABE=E6 AAC0=0 AAC1=E6 AAC2=0 AAF6=9 AB01=0 ABED=9 ABF0=0 FB1E=1A
    FBB2=0 FE20=E6 FE27=DC FE2E=E6 FE45=0 101FD=DC 10280=0 102E0=DC 102E1=0 10376=E6 10380=0
    10A0D=DC 10A0E=0 10A0F=E6 10A10=0 10A38=E6 10A39=1 10A3A=DC 10A3F=9 10A40=0 10AE5=E6
    10AE6=DC 10AEB=0 10D24=E6 10D30=0 10D69=E6 10D6E=0 10EAB=E6 10EAD=0 10EFA=DC 10EFC=0
    10EFD=DC 10F00=0 10F46=DC 10F48=E6 10F4B=DC 10F4C=E6 10F4D=DC 10F51=0 10F82=E6 10F83=DC
    10F84=E6 10F85=DC 10F86=0 11046=9 11047=0 11070=9 11071=0 1107F=9 11080=0 110B9=9 110BA=7
    110BB=0 11100=E6 11103=0 11133=9 11136=0 11173=7 11174=0 111C0=9 111C1=0 111CA=7 111CB=0
    11235=9 11236=7 11237=0 112E9=7 112EA=9 112F0=0 1133B=7 1133D=0 1134D=9 11350=0 11366=E6
    11380=0 113CE=9 113D1=0 11442=9 11443=0 11446=7 11447=0 1145E=E6 1145F=0 114C2=9 114C3=7
    114C4=0 115BF=9 115C0=7 115C1=0 1163F=9 11640=0 116B6=9 116B7=7 116B8=0 1172B=9 11730=0
    11839=9 1183A=7 1183B=0 1193D=9 1193F=0 11943=7 11944=0 119E0=9 119E1=0 11A34=9 11A35=0
    11A47=9 11A50=0 11A99=9 11A9A=0 11C3F=9 11C40=0 11D42=7 11D43=0 11D44=9 11D46=0 11D97=9
    11D98=0 11F41=9 11F43=0 1612F=9 16130=0 16AF0=1 16AF5=0 16B30=E6 16B37=0 16FF0=6 16FF2=0
    1BC9E=1 1BC9F=0 1D165=D8 1D167=1 1D16A=0 1D16D=E2 1D16E=D8 1D17B=DC 1D183=0 1D185=E6
    1D18A=DC 1D18C=0 1D1AA=E6 1D1AE=0 1D242=E6 1D245=0 1E000=E6 1E100=0 1E130=E6 1E137=0
    1E2AE=E6 1E2C0=0 1E2EC=E6 1E2F0=0 1E4EC=E8 1E4EE=DC 1E4EF=E6 1E4F0=0 1E5EE=E6 1E5EF=DC
    1E5F0=0 1E6E3=E6 1E6E4=0 1E6E6=E6 1E6E7=0 1E6EE=E6 1E6F0=0 1E6F5=E6 1E6FE=0 1E8D0=DC 1E922=0
    1E944=E6 1E94A=7 1E94B=0"

end TokenAcquisition.Url.DomainName
